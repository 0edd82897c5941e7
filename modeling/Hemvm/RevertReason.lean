import Mathlib.Data.List.Basic
import Hemvm.Types

/-!
# `revert_reason_decode`

The revert reason of `executed.rs`: output that starts with the selector of
`Error(string)` is ABI-decoded to a string and cut to `MAX_LENGTH`; any other
output is shown in hex.

A Rust `String` is its UTF-8 bytes, and the decoder measures and cuts it in
bytes: `str.len()` is the byte length, and `str[..MAX_LENGTH]` panics unless
byte `MAX_LENGTH` starts a character (`is_char_boundary`). The ABI decoder of
`String` lives in the `solidity_abi` crate, which src does not include; it is
modelled from the spec as the standard decoding of one `string`, with the
check of `String::from_utf8`.

## Main results

* `abiDecodeString_abiEncodeString` — decoding the ABI encoding of a UTF-8
  string gives the string back.
* `revertReasonDecode_error_string` — on an encoded `Error(string)` the
  decoder returns the string when it has fewer than 50 bytes, its first 50
  bytes and `...` when byte 50 starts a character, and panics otherwise.
* `revertReasonDecode_of_undecodable` — any other output comes back as hex.
* `revertReasonDecode_of_abiDecodeString` — an output with the selector and a
  decodable tail is read as the string, cut at byte 50 as above.
-/

namespace Hemvm

/-! ## UTF-8, as `str` keeps it -/

/-- A byte within `lo ..= hi`. -/
def inRange (lo hi : Nat) (b : UInt8) : Bool := lo ≤ b.toNat && b.toNat ≤ hi

/-- A continuation byte, `10xxxxxx`. -/
def isContinuation (b : UInt8) : Bool := inRange 0x80 0xBF b

/-- `core::str::from_utf8`'s check: every character is the shortest encoding
of a scalar value (the well-formed byte sequences of the Unicode standard,
table 3-7). -/
def utf8Valid : Bytes → Bool
  | [] => true
  | b₀ :: rest =>
    if b₀.toNat < 0x80 then utf8Valid rest
    else if inRange 0xC2 0xDF b₀ then
      match rest with
      | b₁ :: rest => isContinuation b₁ && utf8Valid rest
      | [] => false
    else if inRange 0xE0 0xEF b₀ then
      match rest with
      | b₁ :: b₂ :: rest =>
        (if b₀.toNat = 0xE0 then inRange 0xA0 0xBF b₁
          else if b₀.toNat = 0xED then inRange 0x80 0x9F b₁
          else isContinuation b₁) && isContinuation b₂ && utf8Valid rest
      | _ => false
    else if inRange 0xF0 0xF4 b₀ then
      match rest with
      | b₁ :: b₂ :: b₃ :: rest =>
        (if b₀.toNat = 0xF0 then inRange 0x90 0xBF b₁
          else if b₀.toNat = 0xF4 then inRange 0x80 0x8F b₁
          else isContinuation b₁) && isContinuation b₂ && isContinuation b₃ && utf8Valid rest
      | _ => false
    else false

/-- The number of characters of a UTF-8 string: its bytes that are not
continuation bytes. -/
def charCount (s : Bytes) : Nat := s.countP fun b => !isContinuation b

/-- `str::is_char_boundary`. -/
def isCharBoundary (s : Bytes) (index : Nat) : Bool :=
  if index = 0 then true
  else match s.get? index with
    | none => index = s.length
    | some b => !isContinuation b

/-- `&s[..end]`, `none` where it panics. -/
def sliceTo (s : Bytes) (end_ : Nat) : Option Bytes :=
  if isCharBoundary s end_ then some (s.take end_) else none

/-! ## ABI words and strings -/

/-- Modelled from the spec: `String::abi_decode`, the standard ABI decoding
of one `string`: a head word with the offset of the tail, at that offset a
length word, then that many bytes, which must be UTF-8. -/
def abiDecodeString (data : Bytes) : Option Bytes :=
  if 32 ≤ data.length then
    let offset := beUint (data.take 32)
    if offset + 32 ≤ data.length then
      let length := beUint ((data.drop offset).take 32)
      if offset + 32 + length ≤ data.length then
        let bytes := (data.drop (offset + 32)).take length
        if utf8Valid bytes then some bytes else none
      else none
    else none
  else none

/-- The ABI encoding of one `string`, as `Error(string)` carries it: offset 32,
the length, the bytes, zeros up to a multiple of 32. -/
def abiEncodeString (s : Bytes) : Bytes :=
  beBytes 32 32 ++ beBytes 32 s.length ++ s ++ List.replicate ((32 - s.length % 32) % 32) 0

/-- **Decoding an encoded string gives it back**, for every UTF-8 string that
a length word can count. -/
theorem abiDecodeString_abiEncodeString {s : Bytes} (hValid : utf8Valid s = true)
    (hLen : s.length < 2 ^ 256) : abiDecodeString (abiEncodeString s) = some s := by
  have hWord : 2 ^ 256 = 256 ^ 32 := Nat.pow_mul 2 8 32
  have hHead : beUint ((abiEncodeString s).take 32) = 32 := by
    simp only [abiEncodeString, List.append_assoc]
    rw [List.take_left' (length_beBytes 32 32), beUint_beBytes,
      Nat.mod_eq_of_lt (show 32 < 256 ^ 32 by decide)]
  have hLength : beUint (((abiEncodeString s).drop 32).take 32) = s.length := by
    simp only [abiEncodeString, List.append_assoc]
    rw [List.drop_left' (length_beBytes 32 32), List.take_left' (length_beBytes 32 _),
      beUint_beBytes, ← hWord, Nat.mod_eq_of_lt hLen]
  have hBytes : (((abiEncodeString s).drop (32 + 32)).take s.length) = s := by
    simp only [abiEncodeString, List.append_assoc]
    rw [List.drop_append_eq_append_drop, List.drop_of_length_le (by simp), List.nil_append,
      length_beBytes, List.drop_left' (length_beBytes 32 _), List.take_left]
  have hTotal : (abiEncodeString s).length = 64 + s.length + (32 - s.length % 32) % 32 := by
    simp [abiEncodeString]; omega
  unfold abiDecodeString
  simp only [hHead, hLength, hBytes, hValid, hTotal]
  simp (disch := omega) only [if_pos, ite_true]

/-! ## The decoder -/

/-- `MAX_LENGTH`. -/
def maxLength : Nat := 50

/-- The selector of `Error(string)`. -/
def errorSelector : Bytes := [8, 195, 121, 160]

/-- An `ABIDecodeError`: the text of one the decoder raises itself, or a
failure inside `String::abi_decode`. -/
inductive ABIDecodeError where
  | msg (text : String)
  | abi

/-- The bytes of `"0x"`. -/
def hexPrefix : Bytes := [0x30, 0x78]

/-- The bytes of `"..."`. -/
def ellipsis : Bytes := [0x2E, 0x2E, 0x2E]

/-- A digit of `hex::encode`, in lower case. -/
def hexDigit (d : Nat) : UInt8 := if d < 10 then UInt8.ofNat (0x30 + d) else UInt8.ofNat (0x57 + d)

/-- `hex::encode`: two lower-case digits per byte. -/
def hexEncode (bytes : Bytes) : Bytes :=
  bytes.flatMap fun b => [hexDigit (b.toNat / 16), hexDigit (b.toNat % 16)]

/-- `revert_reason_decode`, `none` where it panics. -/
def revertReasonDecode (output : Bytes) : Option Bytes :=
  let decodeResult : Except ABIDecodeError Bytes :=
    if output.length < 4 then .error (.msg "Uncompleted Signature")
    else
      let (sig, data) := output.splitAt 4
      if sig ≠ errorSelector then .error (.msg "Unrecognized Signature")
      else match abiDecodeString data with
        | some str => .ok str
        | none => .error .abi
  match decodeResult with
  | .ok str =>
    if str.length < maxLength then some str
    else (sliceTo str maxLength).map (· ++ ellipsis)
  | .error _ => some (hexPrefix ++ hexEncode output)

/-- **The decoder on an encoded `Error(string)`**: the string itself when it
has fewer than 50 bytes; its first 50 bytes and `...` when byte 50 starts a
character; a panic when byte 50 falls inside one. -/
theorem revertReasonDecode_error_string {s : Bytes} (hValid : utf8Valid s = true)
    (hLen : s.length < 2 ^ 256) :
    revertReasonDecode (errorSelector ++ abiEncodeString s) =
      if s.length < maxLength then some s
      else if isCharBoundary s maxLength then some (s.take maxLength ++ ellipsis)
      else none := by
  have hSplit : (errorSelector ++ abiEncodeString s).splitAt 4 =
      (errorSelector, abiEncodeString s) := by
    have hSel : errorSelector.length = 4 := rfl
    rw [List.splitAt_eq, List.take_left' hSel, List.drop_left' hSel]
  have hLong : ¬ (errorSelector ++ abiEncodeString s).length < 4 := by
    simp [errorSelector]
  unfold revertReasonDecode
  rw [if_neg hLong, hSplit]
  dsimp only
  rw [if_neg (fun h => h rfl), abiDecodeString_abiEncodeString hValid hLen]
  dsimp only
  unfold sliceTo
  split
  · rfl
  · split <;> rfl

/-- The reason of `test_decode_result`, 智商不足，请充值: 8 characters in 24
bytes. -/
def testReason : Bytes :=
  [0xE6, 0x99, 0xBA, 0xE5, 0x95, 0x86, 0xE4, 0xB8, 0x8D, 0xE8, 0xB6, 0xB3,
    0xEF, 0xBC, 0x8C, 0xE8, 0xAF, 0xB7, 0xE5, 0x85, 0x85, 0xE5, 0x80, 0xBC]

/-- The reason of the test comes back whole. -/
theorem revertReasonDecode_error_string_test :
    utf8Valid testReason = true ∧ testReason.length < 2 ^ 256 ∧
      revertReasonDecode (errorSelector ++ abiEncodeString testReason) =
        if testReason.length < maxLength then some testReason
        else if isCharBoundary testReason maxLength then
          some (testReason.take maxLength ++ ellipsis)
        else none :=
  ⟨by decide, by decide, revertReasonDecode_error_string (by decide) (by decide)⟩

/-- **Any output without the selector, or with a tail that is no encoded
string, comes back as hex.** -/
theorem revertReasonDecode_of_undecodable {output : Bytes}
    (h : output.take 4 ≠ errorSelector ∨ abiDecodeString (output.drop 4) = none) :
    revertReasonDecode output = some (hexPrefix ++ hexEncode output) := by
  unfold revertReasonDecode
  by_cases hShort : output.length < 4
  · simp only [if_pos hShort]
  · simp only [if_neg hShort, List.splitAt_eq]
    by_cases hSel : output.take 4 = errorSelector
    · simp only [hSel, ne_eq, not_true_eq_false, if_false, h.resolve_left (not_not.mpr hSel)]
    · simp only [ne_eq, hSel, not_false_eq_true, if_true]

/-- An output with the selector and an encoded string after it is read as
that string. -/
theorem revertReasonDecode_of_abiDecodeString {output str : Bytes}
    (hSel : output.take 4 = errorSelector) (hDecode : abiDecodeString (output.drop 4) = some str) :
    revertReasonDecode output =
      if str.length < maxLength then some str else (sliceTo str maxLength).map (· ++ ellipsis) := by
  have hLong : ¬ output.length < 4 := fun hShort => by
    have := congrArg List.length hSel
    simp only [List.length_take, errorSelector, List.length_cons, List.length_nil] at this
    omega
  unfold revertReasonDecode
  simp only [if_neg hLong, List.splitAt_eq, hSel, ne_eq, not_true_eq_false, if_false, hDecode]

/-- The character 智 (`E6 99 BA`) seventeen times: 17 characters in 51
bytes. -/
def zhiSeventeen : Bytes := (List.replicate 17 [0xE6, 0x99, 0xBA]).flatten

set_option maxRecDepth 8000 in
/-- A reason of fewer than 50 characters but not fewer than 50 bytes is cut at
byte 50, inside its last character, and the slice panics. -/
theorem revertReasonDecode_cuts_character :
    utf8Valid zhiSeventeen = true ∧ charCount zhiSeventeen < maxLength ∧
      revertReasonDecode (errorSelector ++ abiEncodeString zhiSeventeen) = none := by
  decide

end Hemvm
