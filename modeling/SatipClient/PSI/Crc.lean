import Mathlib.Data.List.Basic

/-!
# The MPEG-2 section checksum

The table-driven CRC-32 of the PSI parser: polynomial `0x04c11db7`, register preset to all
ones, most significant bit first, no final complement.  A complete section, its own
checksum included, leaves the register at zero.
-/

namespace SatipClient.PSI

/-- One round of `crc32_init`: shift out the top bit, subtract the polynomial if it was set. -/
def crc32Shift (k : BitVec 32) : BitVec 32 :=
  if k &&& 0x80000000#32 ≠ 0#32 then (k <<< 1) ^^^ 0x04c11db7#32 else k <<< 1

/-- The entry of `crc32_table` that `crc32_init` computes for one leading byte. -/
def crc32Table (i : BitVec 32) : BitVec 32 :=
  (List.range 8).foldl (fun k _ ↦ crc32Shift k) (i <<< 24)

/-- The register after one more byte. -/
def crc32Step (crc : BitVec 32) (byte : UInt8) : BitVec 32 :=
  (crc <<< 8) ^^^ crc32Table (((crc >>> 24) ^^^ byte.toBitVec.setWidth 32) &&& 0xff#32)

/-- `crc32_calc` over a whole buffer. -/
def crc32Calc (data : List UInt8) : BitVec 32 :=
  data.foldl crc32Step 0xffffffff#32

end SatipClient.PSI
