import DiskUploader.Engine.Model
import DiskUploader.Fault.Basic

/-!
# Telling image formats apart

An image is inspected from its first 72 bytes, the length of a version 2 qcow header. An image
that starts with the qcow magic `QFI\xfb` is a cow image: its version is the big-endian 32-bit
number at offset 4, and the size of the disk it describes the big-endian 64-bit number at
offset 24, which wins over the size declared for the stream, since a qcow file is usually much
smaller than its disk. Any other image is raw, and its disk is as large as the stream. An image
shorter than a header cannot be inspected.
-/

namespace DiskUploader

def qcowMagic : List UInt8 := [0x51, 0x46, 0x49, 0xfb]

def qcowHeaderLength : Nat := 72

def bigEndian (bs : ByteArray) (offset len : Nat) : Nat :=
  (List.range len).foldl (fun acc i => acc * 256 + (bs.get! (offset + i)).toNat) 0

/-- The fields of a qcow header that matter here. -/
structure QcowHeader where
  version : Nat
  /-- The size of the virtual disk in bytes. -/
  size : Nat
  deriving DecidableEq, Repr, Inhabited

def QcowHeader.parse (bs : ByteArray) : Option QcowHeader :=
  if bs.size < qcowHeaderLength || (bs.extract 0 4).toList != qcowMagic then none
  else some ⟨bigEndian bs 4 4, bigEndian bs 24 8⟩

structure ImageInfo where
  format : DiskFormat
  /-- The size of the disk the image describes. -/
  logicalSize : Nat
  /-- The number of bytes the stream was said to hold. -/
  declaredSize : Nat
  qcowVersion : Option Nat
  deriving DecidableEq, Repr, Inhabited

def sniff (declared : Nat) (bs : ByteArray) : Except Fault ImageInfo :=
  if bs.size < qcowHeaderLength then
    .error (Fault.new .badArgument
      s!"image is too short to inspect: {bs.size} bytes available, {qcowHeaderLength} needed")
  else
    match QcowHeader.parse bs with
    | some h => .ok ⟨.cow, h.size, declared, some h.version⟩
    | none => .ok ⟨.raw, declared, declared, none⟩

theorem sniff_short {declared : Nat} {bs : ByteArray} (h : bs.size < qcowHeaderLength) :
    ∃ f, sniff declared bs = .error f ∧ f.code = .badArgument := by
  simp only [sniff, h, if_true]
  exact ⟨_, rfl, rfl⟩

end DiskUploader
