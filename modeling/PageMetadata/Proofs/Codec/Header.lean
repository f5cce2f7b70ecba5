import PageMetadata.Codec.Header
import Mathlib.Data.Nat.Bitwise

/-! # Headers and their bytes

A number of fixed width and its bytes determine each other. From this, reading a header accepts
exactly the bytes that writing one produces, and leaves the rest of the buffer.
-/

namespace PageMetadata

namespace Bytes

theorem toNat_ofNat (width number : Nat) : toNat (ofNat width number) = number % 256 ^ width := by
  induction width generalizing number with
  | zero => simp [ofNat, toNat, Nat.mod_one]
  | succ width ih =>
    rw [ofNat, toNat, ih, UInt8.toNat_ofNat', pow_succ' 256 width, Nat.mod_mul]

theorem toNat_lt (bytes : List UInt8) : toNat bytes < 256 ^ bytes.length := by
  induction bytes with
  | nil => simp [toNat]
  | cons byte bytes ih =>
    have digit := byte.toNat_lt
    rw [toNat, List.length_cons, pow_succ']
    omega

theorem ofNat_toNat (bytes : List UInt8) : ofNat bytes.length (toNat bytes) = bytes := by
  induction bytes with
  | nil => rfl
  | cons byte bytes ih =>
    have digit := byte.toNat_lt
    have low : UInt8.ofNat (byte.toNat + 256 * toNat bytes) = byte := by
      apply UInt8.toNat.inj
      rw [UInt8.toNat_ofNat']
      omega
    have high : (byte.toNat + 256 * toNat bytes) / 256 = toNat bytes := by omega
    rw [toNat, List.length_cons, ofNat, low, high, ih]

@[simp] theorem toNat_replicate_zero (width : Nat) : toNat (List.replicate width 0) = 0 := by
  induction width with
  | zero => rfl
  | succ width ih => simp [List.replicate_succ, toNat, ih]

theorem eq_replicate_of_toNat_eq_zero {bytes : List UInt8} (zero : toNat bytes = 0) :
    bytes = List.replicate bytes.length 0 := by
  induction bytes with
  | nil => rfl
  | cons byte bytes ih =>
    rw [toNat] at zero
    have first : byte = 0 := UInt8.toNat.inj (by simp only [UInt8.toNat_zero]; omega)
    have rest := ih (by omega)
    rw [List.length_cons, List.replicate_succ, ← rest, first]

theorem toNat_eq_zero_iff (bytes : List UInt8) :
    toNat bytes = 0 ↔ bytes = List.replicate bytes.length 0 := by
  constructor
  · exact eq_replicate_of_toNat_eq_zero
  · intro zeros
    rw [zeros]
    exact toNat_replicate_zero _

end Bytes

namespace HeaderLayout

/-- The bytes of a header whose fields fit. -/
def headerBytes (layout : HeaderLayout) (header : StructuredHeader) : List UInt8 :=
  Bytes.ofNat layout.fieldWidth header.version.toNat
    ++ Bytes.ofNat layout.fieldWidth header.kind.toNat
    ++ Bytes.ofNat lengthWidth header.length.toNat
    ++ List.replicate layout.reservedWidth 0

/-- Version and kind have room in the fields of the layout. -/
def Fits (layout : HeaderLayout) (version kind : UInt32) : Prop :=
  version.toNat ≤ layout.maxField ∧ kind.toNat ≤ layout.maxField

@[simp] theorem length_headerBytes (layout : HeaderLayout) (header : StructuredHeader) :
    (layout.headerBytes header).length = layout.headerLength := by
  simp only [headerBytes, List.length_append, Bytes.length_ofNat, List.length_replicate,
    headerLength]
  omega

theorem writeHeader_eq_ok_iff (layout : HeaderLayout) (header : StructuredHeader)
    (bytes : List UInt8) :
    layout.writeHeader header = .ok bytes ↔
      layout.Fits header.version header.kind ∧ layout.headerBytes header = bytes := by
  by_cases version : header.version.toNat ≤ layout.maxField <;>
    by_cases kind : header.kind.toNat ≤ layout.maxField <;>
    simp [writeHeader, checkField, Fits, version, kind, bind, Except.bind, pure, Except.pure,
      headerBytes]

theorem le_maxField_iff (layout : HeaderLayout) (value : Nat) :
    value ≤ layout.maxField ↔ value < 256 ^ layout.fieldWidth := by
  have positive : 0 < 256 ^ layout.fieldWidth := Nat.pow_pos (by decide)
  have same : layout.maxField = 256 ^ layout.fieldWidth - 1 := rfl
  omega

theorem fieldWidth_le (layout : HeaderLayout) : layout.fieldWidth ≤ lengthWidth := by
  cases layout <;> decide

/-- A field read back is the field that was written. -/
private theorem ofNat_toNat_ofNat {width : Nat} {value : UInt32}
    (fits : value.toNat < 256 ^ width) :
    UInt32.ofNat (Bytes.toNat (Bytes.ofNat width value.toNat)) = value := by
  rw [Bytes.toNat_ofNat, Nat.mod_eq_of_lt fits, UInt32.ofNat_toNat]

/-- The bytes of a field are those of the number that they stand for. -/
private theorem ofNat_toNat_field {bytes : List UInt8} {width : Nat}
    (length : bytes.length = width) (short : width ≤ lengthWidth) :
    Bytes.ofNat width (UInt32.ofNat (Bytes.toNat bytes)).toNat = bytes := by
  have digits := Bytes.toNat_lt bytes
  have bound : 256 ^ bytes.length ≤ 256 ^ lengthWidth :=
    Nat.pow_le_pow_right (by decide) (length ▸ short)
  have word : (256 : Nat) ^ lengthWidth = UInt32.size := rfl
  rw [UInt32.toNat_ofNat_of_lt' (by omega), ← length, Bytes.ofNat_toNat]

/-- The number in a field of the layout is within the field's bound. -/
private theorem toNat_field_le {layout : HeaderLayout} {bytes : List UInt8}
    (length : bytes.length = layout.fieldWidth) :
    (UInt32.ofNat (Bytes.toNat bytes)).toNat ≤ layout.maxField := by
  have digits := Bytes.toNat_lt bytes
  have reduced : (UInt32.ofNat (Bytes.toNat bytes)).toNat ≤ Bytes.toNat bytes := by
    rw [UInt32.toNat_ofNat']
    exact Nat.mod_le _ _
  rw [le_maxField_iff, ← length]
  omega

/-- The number in the length field of a buffer. -/
def declaredLength (layout : HeaderLayout) (buffer : List UInt8) : Nat :=
  Bytes.toNat ((buffer.drop (2 * layout.fieldWidth)).take lengthWidth)

/-- The number in the reserved word of a buffer, 0 if the layout has none. -/
def reservedWord (layout : HeaderLayout) (buffer : List UInt8) : Nat :=
  Bytes.toNat ((buffer.drop (2 * layout.fieldWidth + lengthWidth)).take layout.reservedWidth)

theorem declaredLength_lt (layout : HeaderLayout) (buffer : List UInt8) :
    layout.declaredLength buffer < UInt32.size := by
  have digits := Bytes.toNat_lt ((buffer.drop (2 * layout.fieldWidth)).take lengthWidth)
  have bound := Nat.pow_le_pow_right (show 0 < 256 by decide)
    (List.length_take_le lengthWidth (buffer.drop (2 * layout.fieldWidth)))
  exact Nat.lt_of_lt_of_le digits bound

theorem readHeader_eq (layout : HeaderLayout) (buffer : List UInt8) :
    layout.readHeader buffer =
      if buffer.length < layout.headerLength then
        .error (.truncated layout.headerLength buffer.length)
      else if layout.reservedWord buffer = 0 then
        .ok (⟨.ofNat (Bytes.toNat (buffer.take layout.fieldWidth)),
            .ofNat (Bytes.toNat ((buffer.drop layout.fieldWidth).take layout.fieldWidth)),
            .ofNat (layout.declaredLength buffer)⟩,
          buffer.drop layout.headerLength)
      else .error (.reservedNotZero (.ofNat (layout.reservedWord buffer))) := rfl

theorem readHeader_eq_error_iff (layout : HeaderLayout) (buffer : List UInt8)
    (error : CodecError) :
    layout.readHeader buffer = .error error ↔
      (buffer.length < layout.headerLength ∧
        error = .truncated layout.headerLength buffer.length) ∨
      (layout.headerLength ≤ buffer.length ∧ layout.reservedWord buffer ≠ 0 ∧
        error = .reservedNotZero (.ofNat (layout.reservedWord buffer))) := by
  rw [readHeader_eq]
  by_cases short : buffer.length < layout.headerLength
  · rw [if_pos short]
    simp only [short, Nat.not_le.mpr short, true_and, false_and, or_false, Except.error.injEq,
      eq_comm]
  · rw [if_neg short]
    simp only [short, Nat.le_of_not_lt short, true_and, false_and, false_or]
    by_cases zero : layout.reservedWord buffer = 0
    · simp [zero]
    · simp [zero, eq_comm]

theorem readHeader_append {layout : HeaderLayout} {header : StructuredHeader} {bytes : List UInt8}
    (written : layout.writeHeader header = .ok bytes) (rest : List UInt8) :
    layout.readHeader (bytes ++ rest) = .ok (header, rest) := by
  obtain ⟨⟨version, kind⟩, rfl⟩ := (layout.writeHeader_eq_ok_iff header bytes).mp written
  rw [le_maxField_iff] at version kind
  have length := header.length.toNat_lt
  have long : ¬ (layout.headerBytes header ++ rest).length < layout.headerLength := by
    rw [List.length_append, length_headerBytes]
    omega
  have behind : (layout.headerBytes header ++ rest).drop layout.headerLength = rest :=
    List.drop_left' (layout.length_headerBytes header)
  -- The fields are cut off one after another.
  generalize whole : layout.headerBytes header ++ rest = buffer at long behind ⊢
  simp only [headerBytes, List.append_assoc] at whole
  have atKind := congrArg (List.drop layout.fieldWidth) whole
  rw [List.drop_left' (Bytes.length_ofNat _ _)] at atKind
  have atLength := congrArg (List.drop layout.fieldWidth) atKind
  rw [List.drop_left' (Bytes.length_ofNat _ _), List.drop_drop, ← Nat.two_mul] at atLength
  have atReserved := congrArg (List.drop lengthWidth) atLength
  rw [List.drop_left' (Bytes.length_ofNat _ _), List.drop_drop] at atReserved
  rw [readHeader, if_neg long]
  simp only [← atReserved, ← atLength, ← atKind, List.take_left' (Bytes.length_ofNat _ _),
    List.take_left' (List.length_replicate ..), behind]
  rw [← whole, List.take_left' (Bytes.length_ofNat _ _), if_pos (Bytes.toNat_replicate_zero _),
    ofNat_toNat_ofNat version, ofNat_toNat_ofNat kind, ofNat_toNat_ofNat length]

/-- What reading a header accepts is the header's own bytes in front of the rest. -/
theorem eq_append_of_readHeader {layout : HeaderLayout} {buffer rest : List UInt8}
    {header : StructuredHeader} (read : layout.readHeader buffer = .ok (header, rest)) :
    ∃ bytes, layout.writeHeader header = .ok bytes ∧ buffer = bytes ++ rest := by
  rw [readHeader] at read
  split at read
  · contradiction
  next long =>
  simp only at read
  split at read
  case isFalse => contradiction
  next zero =>
  obtain ⟨rfl, rfl⟩ := Prod.mk.inj (Except.ok.inj read)
  have total : 2 * layout.fieldWidth + lengthWidth + layout.reservedWidth ≤ buffer.length := by
    rw [← headerLength]
    omega
  have version : (buffer.take layout.fieldWidth).length = layout.fieldWidth := by
    rw [List.length_take]
    omega
  have kind : ((buffer.drop layout.fieldWidth).take layout.fieldWidth).length =
      layout.fieldWidth := by
    rw [List.length_take, List.length_drop]
    omega
  have length : ((buffer.drop (2 * layout.fieldWidth)).take lengthWidth).length = lengthWidth := by
    rw [List.length_take, List.length_drop]
    omega
  have reserved : ((buffer.drop (2 * layout.fieldWidth + lengthWidth)).take
      layout.reservedWidth).length = layout.reservedWidth := by
    rw [List.length_take, List.length_drop]
    omega
  refine ⟨_, (layout.writeHeader_eq_ok_iff _ _).mpr
    ⟨⟨toNat_field_le version, toNat_field_le kind⟩, rfl⟩, ?_⟩
  simp only [headerBytes, ofNat_toNat_field version layout.fieldWidth_le,
    ofNat_toNat_field kind layout.fieldWidth_le, ofNat_toNat_field length (Nat.le_refl _)]
  have zeros := Bytes.eq_replicate_of_toNat_eq_zero zero
  rw [reserved] at zeros
  have cut (place count : Nat) :
      (buffer.drop place).take count ++ buffer.drop (place + count) = buffer.drop place := by
    rw [← List.drop_drop, List.take_append_drop]
  rw [← zeros, headerLength, List.append_assoc, List.append_assoc, List.append_assoc, cut, cut,
    Nat.two_mul, cut, List.take_append_drop]

theorem readHeader_eq_ok_iff (layout : HeaderLayout) (buffer rest : List UInt8)
    (header : StructuredHeader) :
    layout.readHeader buffer = .ok (header, rest) ↔
      ∃ bytes, layout.writeHeader header = .ok bytes ∧ buffer = bytes ++ rest := by
  constructor
  · exact eq_append_of_readHeader
  · rintro ⟨bytes, written, rfl⟩
    exact readHeader_append written rest

end HeaderLayout

end PageMetadata
