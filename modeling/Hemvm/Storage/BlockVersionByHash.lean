import Hemvm.Types

/-!
# `BlockVersionByHashSchema`

The AptosDB column family from a block's hash to the version of its
`BlockMetadata` event (`schema/block_version_by_hash/mod.rs`). The key is the
32 bytes of the `HashValue`; the value is the `u64` version in big-endian
order.

Both decoders first call `ensure_slice_len_eq(data, size_of::<Self>())`, then
parse: `HashValue::from_slice` for the key, `read_u64::<BigEndian>` for the
value. Neither the length check (`crate::schema`) nor the two parsers
(`aptos_crypto`, `byteorder`) are in the source; they are modelled from what
they are used for here: a check that the slice has the given length, a copy of
exactly 32 bytes, and a big-endian read of the first 8 bytes that fails on a
shorter slice. Each failure is its own `SchemaError`, so the proofs show which
of them can happen at all.

## Main results

* `decodeValue_encodeValue`, `decodeKey_encodeKey` — decoding an encoding
  gives the version, or the hash, back.
* `decodeValue_eq_ok_iff`, `decodeKey_eq_ok_iff` — a decoder succeeds exactly
  on slices of 8, or 32, bytes, and its result encodes back to the slice.
* `decodeValue_of_length_ne`, `decodeKey_of_length_ne` — every other slice is
  refused by the length check, with the slice's length and the expected one:
  the parsers' own failures are unreachable.
-/

namespace Hemvm

/-- The errors the codecs can return (`anyhow::Error`), one per place that
can fail. -/
inductive SchemaError where
  /-- `ensure_slice_len_eq`: the slice's length and the expected one. -/
  | unexpectedDataLen (actual expected : Nat)
  /-- `HashValueParseError`, from `HashValue::from_slice`. -/
  | hashValueParse
  /-- `io::ErrorKind::UnexpectedEof`, from `read_u64`. -/
  | unexpectedEof
  deriving DecidableEq, Repr

/-- `ensure_slice_len_eq`: success exactly when the slice has `len` bytes. -/
def ensureSliceLenEq (data : Bytes) (len : Nat) : Except SchemaError Unit :=
  if data.length = len then pure () else throw (.unexpectedDataLen data.length len)

/-- `aptos_crypto::HashValue`: exactly `HashValue::LENGTH` = 32 bytes, which
is also `size_of::<HashValue>()`. -/
structure HashValue where
  hash : Bytes
  length_hash : hash.length = 32
  deriving DecidableEq, Repr

namespace HashValue

/-- `HashValue::to_vec`. -/
def toVec (h : HashValue) : Bytes := h.hash

/-- `HashValue::from_slice`: the slice as a hash when it has 32 bytes. -/
def fromSlice (data : Bytes) : Except SchemaError HashValue :=
  if h : data.length = 32 then pure ⟨data, h⟩ else throw .hashValueParse

end HashValue

/-- `aptos_types::transaction::Version`. -/
abbrev Version := U64

/-- `u64::to_be_bytes`. -/
def toBeBytes (v : U64) : Bytes := beBytes 8 v.val

/-- `ReadBytesExt::read_u64::<BigEndian>`: the first 8 bytes as a big-endian
number and the rest of the slice, or `UnexpectedEof` on a shorter slice. -/
def readU64BigEndian (data : Bytes) : Except SchemaError (U64 × Bytes) :=
  if h : 8 ≤ data.length then
    pure (⟨beUint (data.take 8), by
      have hBound := beUint_lt (data.take 8)
      rw [List.length_take, Nat.min_eq_left h] at hBound
      exact hBound⟩, data.drop 8)
  else throw .unexpectedEof

namespace BlockVersionByHashSchema

/-- `KeyCodec::encode_key` for `HashValue`. -/
def encodeKey (h : HashValue) : Except SchemaError Bytes := pure h.toVec

/-- `KeyCodec::decode_key` for `HashValue`. -/
def decodeKey (data : Bytes) : Except SchemaError HashValue := do
  ensureSliceLenEq data 32
  HashValue.fromSlice data

/-- `ValueCodec::encode_value` for `Version`. -/
def encodeValue (v : Version) : Except SchemaError Bytes := pure (toBeBytes v)

/-- `ValueCodec::decode_value` for `Version`. -/
def decodeValue (data : Bytes) : Except SchemaError Version := do
  ensureSliceLenEq data 8
  return (← readU64BigEndian data).1

/-! ## The value codec -/

/-- The encoder never fails. -/
theorem encodeValue_bind {α : Type} (v : Version) (f : Bytes → Except SchemaError α) :
    (encodeValue v >>= f) = f (toBeBytes v) := rfl

/-- On an 8-byte slice the decoder reads the slice as a big-endian number. -/
theorem decodeValue_of_length (d : Bytes) (h : d.length = 8) :
    decodeValue d = .ok ⟨beUint d, by have hBound := beUint_lt d; rwa [h] at hBound⟩ := by
  simp only [decodeValue, ensureSliceLenEq, readU64BigEndian, if_pos h, dif_pos (Nat.le_of_eq h.symm),
    List.take_of_length_le (Nat.le_of_eq h)]
  rfl

/-- Every other slice fails the length check. -/
theorem decodeValue_of_length_ne (d : Bytes) (h : d.length ≠ 8) :
    decodeValue d = .error (.unexpectedDataLen d.length 8) := by
  simp only [decodeValue, ensureSliceLenEq, if_neg h]
  rfl

/-- **The value round trip**: decoding the encoding of a version gives it
back. -/
theorem decodeValue_encodeValue (v : Version) : (encodeValue v >>= decodeValue) = .ok v := by
  rw [encodeValue_bind, decodeValue_of_length (toBeBytes v) (length_beBytes 8 v.val)]
  congr
  rw [toBeBytes, beUint_beBytes]
  exact Nat.mod_eq_of_lt v.isLt

/-- **The value decoder accepts exactly the 8-byte slices**, and what it
returns encodes back to the slice. -/
theorem decodeValue_eq_ok_iff (d : Bytes) :
    (∃ v, decodeValue d = .ok v) ↔ d.length = 8 := by
  refine ⟨fun ⟨v, hv⟩ => ?_, fun h => ⟨_, decodeValue_of_length d h⟩⟩
  by_contra h
  rw [decodeValue_of_length_ne d h] at hv
  cases hv

theorem encodeValue_of_decodeValue {d : Bytes} {v : Version} (h : decodeValue d = .ok v) :
    encodeValue v = .ok d := by
  have hLength := (decodeValue_eq_ok_iff d).mp ⟨v, h⟩
  rw [decodeValue_of_length d hLength] at h
  cases h
  show Except.ok (beBytes 8 (beUint d)) = .ok d
  rw [← hLength, beBytes_beUint]

/-! ## The key codec -/

/-- The encoder never fails. -/
theorem encodeKey_bind {α : Type} (h : HashValue) (f : Bytes → Except SchemaError α) :
    (encodeKey h >>= f) = f h.hash := rfl

/-- On a 32-byte slice the decoder returns the slice as the hash. -/
theorem decodeKey_of_length (d : Bytes) (h : d.length = 32) :
    decodeKey d = .ok ⟨d, h⟩ := by
  simp only [decodeKey, ensureSliceLenEq, HashValue.fromSlice, if_pos h, dif_pos h]
  rfl

/-- Every other slice fails the length check, before `from_slice` is
reached. -/
theorem decodeKey_of_length_ne (d : Bytes) (h : d.length ≠ 32) :
    decodeKey d = .error (.unexpectedDataLen d.length 32) := by
  simp only [decodeKey, ensureSliceLenEq, if_neg h]
  rfl

/-- **The key round trip**: decoding the encoding of a hash gives it back. -/
theorem decodeKey_encodeKey (h : HashValue) : (encodeKey h >>= decodeKey) = .ok h := by
  rw [encodeKey_bind, decodeKey_of_length h.hash h.length_hash]

/-- **The key decoder accepts exactly the 32-byte slices**. -/
theorem decodeKey_eq_ok_iff (d : Bytes) :
    (∃ h, decodeKey d = .ok h) ↔ d.length = 32 := by
  refine ⟨fun ⟨h, hh⟩ => ?_, fun hLength => ⟨_, decodeKey_of_length d hLength⟩⟩
  by_contra hLength
  rw [decodeKey_of_length_ne d hLength] at hh
  cases hh

theorem encodeKey_of_decodeKey {d : Bytes} {h : HashValue} (hDecode : decodeKey d = .ok h) :
    encodeKey h = .ok d := by
  have hLength := (decodeKey_eq_ok_iff d).mp ⟨h, hDecode⟩
  rw [decodeKey_of_length d hLength] at hDecode
  cases hDecode
  rfl

/-- **Both codecs of the schema are bijections** between their type and the
slices of its size: decoding undoes encoding, a decoder succeeds exactly on
slices of the type's size, and what it returns encodes back to the slice. -/
theorem blockVersionByHashSchema_roundtrip :
    (∀ v : Version, (encodeValue v >>= decodeValue) = .ok v) ∧
    (∀ d : Bytes, ((∃ v, decodeValue d = .ok v) ↔ d.length = 8) ∧
      ∀ v, decodeValue d = .ok v → encodeValue v = .ok d) ∧
    (∀ h : HashValue, (encodeKey h >>= decodeKey) = .ok h) ∧
    (∀ d : Bytes, ((∃ h, decodeKey d = .ok h) ↔ d.length = 32) ∧
      ∀ h, decodeKey d = .ok h → encodeKey h = .ok d) :=
  ⟨decodeValue_encodeValue, fun d => ⟨decodeValue_eq_ok_iff d, fun _ => encodeValue_of_decodeValue⟩,
    decodeKey_encodeKey, fun d => ⟨decodeKey_eq_ok_iff d, fun _ => encodeKey_of_decodeKey⟩⟩

end BlockVersionByHashSchema

end Hemvm
