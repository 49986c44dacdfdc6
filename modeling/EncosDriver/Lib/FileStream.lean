import Mathlib.Data.List.Infix

set_option autoImplicit false

namespace EncosDriver.Lib

abbrev Octets := List UInt8

structure FileStream where
  written : Octets := []
  buffered : Octets := []
deriving DecidableEq, Repr

namespace FileStream

def total (stream : FileStream) : Octets := stream.written ++ stream.buffered

def accept (stream : FileStream) (data : Octets) (spilled : Nat) : FileStream :=
  ⟨stream.written ++ (stream.buffered ++ data).take spilled, (stream.buffered ++ data).drop spilled⟩

def short (stream : FileStream) (data : Octets) (kept spilled : Nat) : FileStream :=
  stream.accept (data.take kept) spilled

def flushed (stream : FileStream) : FileStream := ⟨stream.total, []⟩

def flushShort (stream : FileStream) (spilled : Nat) : FileStream := stream.accept [] spilled

variable (stream : FileStream)

@[simp] theorem total_accept (data : Octets) (spilled : Nat) : (stream.accept data spilled).total = stream.total ++ data := by
  simp [accept, total]

@[simp] theorem total_flushed : stream.flushed.total = stream.total := by
  simp [flushed, total]

@[simp] theorem total_flush_short (spilled : Nat) : (stream.flushShort spilled).total = stream.total := by
  simp [flushShort]

theorem total_short (data : Octets) (kept spilled : Nat) : (stream.short data kept spilled).total <+: stream.total ++ data := by
  rw [short, total_accept]
  exact (List.prefix_append_right_inj _).mpr (List.take_prefix kept data)

theorem written_prefix_total : stream.written <+: stream.total := List.prefix_append _ _

theorem written_accept (data : Octets) (spilled : Nat) :
    stream.written <+: (stream.accept data spilled).written := List.prefix_append _ _

end FileStream

-- A compression whose decompressor, given the frames of some chunks and a part
-- of the frames that follow, gives back these chunks and a part of what follows.
structure Compression where
  compress : Octets → Octets
  decompress : Octets → Octets
  undoes : ∀ (chunks more : List Octets) (rest : Octets), rest <+: (more.map compress).flatten →
    ∃ part, decompress ((chunks.map compress).flatten ++ rest) = chunks.flatten ++ part ∧ part <+: more.flatten

namespace Compression

def frames (codec : Compression) (chunks : List Octets) : Octets := (chunks.map codec.compress).flatten

variable (codec : Compression)

theorem frames_append (first second : List Octets) :
    codec.frames (first ++ second) = codec.frames first ++ codec.frames second := by
  simp [frames]

theorem decompress_part (chunks : List Octets) (bytes : Octets) (part : bytes <+: codec.frames chunks) :
    codec.decompress bytes <+: chunks.flatten := by
  obtain ⟨rest, same, within⟩ := codec.undoes [] chunks bytes part
  have whole : codec.decompress bytes = rest := by simpa using same
  rw [whole]
  exact within

theorem decompress_has (first chunks : List Octets) (bytes : Octets) (ordered : first <+: chunks)
    (has : codec.frames first <+: bytes) (part : bytes <+: codec.frames chunks) :
    first.flatten <+: codec.decompress bytes := by
  obtain ⟨more, rfl⟩ := ordered
  obtain ⟨rest, rfl⟩ := has
  rw [frames_append] at part
  obtain ⟨gained, same, -⟩ := codec.undoes first more rest ((List.prefix_append_right_inj _).mp part)
  exact ⟨gained, same.symm⟩

end Compression

end EncosDriver.Lib
