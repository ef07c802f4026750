/-!
What the bytes of a binary value are for.

The subtypes have names, and a byte where they are stored.  A subtype without a name holds its byte
itself.  That byte may belong to a subtype with a name, so two subtypes that differ may have the
same byte; of these only one is what the byte stands for.
-/

namespace Sift

inductive BinarySubtype where
  | generic
  | function
  | binaryOld
  | uuidOld
  | uuid
  | md5
  | encrypted
  | column
  | sensitive
  | vector
  | userDefined (byte : UInt8)
  | reserved (byte : UInt8)
  deriving DecidableEq

namespace BinarySubtype

def toByte : BinarySubtype → UInt8
  | generic => 0
  | function => 1
  | binaryOld => 2
  | uuidOld => 3
  | uuid => 4
  | md5 => 5
  | encrypted => 6
  | column => 7
  | sensitive => 8
  | vector => 9
  | userDefined byte => byte
  | reserved byte => byte

/-- The subtype that a byte stands for.  The bytes from 128 on are left to users. -/
def ofByte (byte : UInt8) : BinarySubtype :=
  match byte.toNat with
  | 0 => generic
  | 1 => function
  | 2 => binaryOld
  | 3 => uuidOld
  | 4 => uuid
  | 5 => md5
  | 6 => encrypted
  | 7 => column
  | 8 => sensitive
  | 9 => vector
  | _ => if byte < 128 then reserved byte else userDefined byte

theorem toByte_ofByte (byte : UInt8) : (ofByte byte).toByte = byte := by
  unfold ofByte
  split
  case h_11 =>
    split <;> rfl
  all_goals
    rename_i h
    exact UInt8.toNat_inj.mp h.symm

end BinarySubtype
end Sift
