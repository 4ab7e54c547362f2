import DiskUploader.Image.Qcow
import DiskUploader.Files.Basic

/-!
# Image streams

An image arrives as a stream read piece by piece. A read asks for up to some number of bytes and
gets at most that many; an empty answer to a non-empty request means the stream has ended. How
many bytes a read hands out is the reader's choice: at least one while bytes are left, and at most
what its chunking allows at the position it reads from. As every read that hands out bytes moves
the position on, any sequence of non-empty reads is the reads of some chunking.

To inspect an image its first bytes are read ahead. What was read ahead is replayed in front of
the rest of the stream, so that the body still yields every byte: a read first drains the replay
and, once that is empty, goes on to the stream within the same read. The body sent for a disk is
cut off after the number of bytes declared for it.

An image file is inspected by opening it, taking its length as the declared size and peeking
at its first bytes. A file that cannot be opened is a bad argument naming the path; a failure
while reading, such as a directory given for a file, is an I/O error.
-/

namespace DiskUploader

/-- The most bytes a read hands out, by the position it reads from; never none. -/
structure Chunking where
  size : Nat → Nat
  pos : ∀ p, 0 < size p

def Chunking.uniform (c : Nat) (h : 0 < c) : Chunking := ⟨fun _ => c, fun _ => h⟩

instance : Inhabited Chunking := ⟨.uniform 1 Nat.one_pos⟩

/-- A stream of image bytes, read as its chunking allows. -/
structure ImageSource where
  bytes : ByteArray
  chunking : Chunking
  position : Nat := 0
  deriving Inhabited

namespace ImageSource

/-- The stream of `bytes` that hands out at most `chunk` bytes per read; a reader that hands out
none has ended before its first byte. -/
def chunked (bytes : ByteArray) (chunk : Nat) : ImageSource :=
  if h : 0 < chunk then { bytes, chunking := .uniform chunk h }
  else { bytes := ByteArray.empty, chunking := default }

def remaining (s : ImageSource) : Nat := s.bytes.size - s.position

def read (s : ImageSource) (want : Nat) : ByteArray × ImageSource :=
  let n := min want (min (s.chunking.size s.position) s.remaining)
  (s.bytes.extract s.position (s.position + n), { s with position := s.position + n })

/-- Reads until `acc` holds `target` bytes or the stream ends; `fuel` bounds the reads. -/
def fill (target : Nat) : Nat → ByteArray → ImageSource → ByteArray × ImageSource
  | 0, acc, s => (acc, s)
  | fuel + 1, acc, s =>
    if acc.size ≥ target then (acc, s)
    else
      let (bs, s') := s.read (target - acc.size)
      if bs.size = 0 then (acc, s') else fill target fuel (acc ++ bs) s'

end ImageSource

/-- The bytes read ahead, replayed in front of the rest of the stream. -/
structure Replay where
  ahead : ByteArray
  offset : Nat := 0
  /-- Whether the replayed bytes are used up and reads go to the stream. -/
  drained : Bool := false
  source : ImageSource
  deriving Inhabited

namespace Replay

/-- Reads up to `want` bytes: the replayed bytes first, then the stream. -/
def read (r : Replay) (want : Nat) : ByteArray × Replay :=
  if r.drained then
    let (bs, s) := r.source.read want
    (bs, { r with source := s })
  else
    let n := min want (r.ahead.size - r.offset)
    if n = 0 && want ≠ 0 then
      let (bs, s) := r.source.read want
      (bs, { r with drained := true, source := s })
    else (r.ahead.extract r.offset (r.offset + n), { r with offset := r.offset + n })

end Replay

/-- Reads the first bytes of a stream to inspect them; answers what was found and the stream
with those bytes put back in front. -/
def peekImage (s : ImageSource) (declared : Nat) : Except Fault (ImageInfo × Replay) :=
  let (ahead, rest) := s.fill qcowHeaderLength (qcowHeaderLength + 1) ByteArray.empty
  match sniff declared ahead with
  | .ok info => .ok (info, { ahead, source := rest })
  | .error e => .error e

/-- A replayed stream cut off after `limit` more bytes. -/
structure Body where
  replay : Replay
  limit : Nat
  deriving Inhabited

/-- Reads up to `want` bytes of the body; none once the limit is reached. -/
def Body.read (b : Body) (want : Nat) : ByteArray × Body :=
  if b.limit = 0 then (ByteArray.empty, b)
  else
    let (bs, r) := b.replay.read (min want b.limit)
    (bs, { replay := r, limit := b.limit - bs.size })

/-- Reads a replayed stream to its end, `want` bytes at a time; `fuel` bounds the reads. -/
def Replay.drain (want : Nat) : Nat → ByteArray → Replay → ByteArray
  | 0, acc, _ => acc
  | fuel + 1, acc, r =>
    let (bs, r') := r.read want
    if bs.size = 0 then acc else Replay.drain want fuel (acc ++ bs) r'

theorem Body.read_limit_zero (b : Body) (want : Nat) (h : b.limit = 0) :
    (b.read want).1.size = 0 := by
  simp [Body.read, h]

def FileSystem.image (fs : FileSystem) (path : String) : Except Fault ByteArray :=
  match fs.openFile path with
  | .error e => .error (Fault.wrap [Layer.text e.message] .badArgument s!"cannot open {path}")
  | .ok () =>
    match fs.read path with
    | .error e => .error (Fault.ofIo [Layer.text e.message])
    | .ok bytes => .ok bytes

def FileSystem.inspect (fs : FileSystem) (path : String) : Except Fault ImageInfo := do
  let bytes ← fs.image path
  let (info, _) ← peekImage (ImageSource.chunked bytes 8192) bytes.size
  return info

end DiskUploader
