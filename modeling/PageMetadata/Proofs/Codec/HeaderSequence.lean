import PageMetadata.Proofs.Codec.Bijection

/-! # Headers one after another

Headers that are written behind each other are read back in their order, whatever stands before and
behind them. A header whose version or kind has no room leaves nothing behind. In the other
direction, only a buffer that ends within the header, or one with a reserved word that is not zero,
cannot be read.
-/

namespace PageMetadata.HeaderLayout

variable (layout : HeaderLayout)

instance (version kind : UInt32) : Decidable (layout.Fits version kind) :=
  inferInstanceAs (Decidable (_ ∧ _))

/-- The headers that have room, in their order. -/
def accepted (headers : List StructuredHeader) : List StructuredHeader :=
  headers.filter fun header => layout.Fits header.version header.kind

/-- The buffer with headers behind it, as far as they have room. -/
def appendHeaders (buffer : List UInt8) (headers : List StructuredHeader) : List UInt8 :=
  headers.foldl (fun buffer header => (layout.appendHeader buffer header).2) buffer

/-- So many headers from the front of a buffer, and the bytes behind them. -/
def readHeaders : Nat → List UInt8 → Except CodecError (List StructuredHeader × List UInt8)
  | 0, buffer => .ok ([], buffer)
  | count + 1, buffer => do
    let (header, behind) ← layout.readHeader buffer
    let (headers, rest) ← readHeaders count behind
    return (header :: headers, rest)

section Append

variable (buffer : List UInt8) (header : StructuredHeader)

theorem fst_appendHeader :
    (layout.appendHeader buffer header).1 = (layout.writeHeader header).map fun _ => () := by
  rw [appendHeader]
  cases layout.writeHeader header <;> rfl

theorem snd_appendHeader :
    (layout.appendHeader buffer header).2 =
      if layout.Fits header.version header.kind then buffer ++ layout.headerBytes header
      else buffer := by
  rw [appendHeader]
  cases written : layout.writeHeader header with
  | ok bytes =>
    obtain ⟨fits, rfl⟩ := (layout.writeHeader_eq_ok_iff header bytes).mp written
    rw [if_pos fits]
  | error error =>
    rw [if_neg]
    intro fits
    have accepted := (layout.writeHeader_eq_ok_iff header _).mpr ⟨fits, rfl⟩
    rw [written] at accepted
    contradiction

theorem appendHeader_eq_error_iff {error : CodecError} :
    (layout.appendHeader buffer header).1 = .error error ↔
      (layout.maxField < header.version.toNat ∧
        error = .fieldOverflow .version header.version.toNat layout) ∨
      (header.version.toNat ≤ layout.maxField ∧ layout.maxField < header.kind.toNat ∧
        error = .fieldOverflow .kind header.kind.toNat layout) := by
  rw [fst_appendHeader, map_eq_error_iff, writeHeader_eq_error_iff]

variable {buffer header} in
theorem snd_appendHeader_of_refused {error : CodecError}
    (refused : (layout.appendHeader buffer header).1 = .error error) :
    (layout.appendHeader buffer header).2 = buffer := by
  rw [appendHeader] at refused ⊢
  cases written : layout.writeHeader header with
  | error error => rfl
  | ok bytes =>
    rw [written] at refused
    contradiction

theorem appendHeader_eq_ok_iff (whole : List UInt8) :
    layout.appendHeader buffer header = (.ok (), whole) ↔
      ∃ bytes, layout.writeHeader header = .ok bytes ∧ buffer ++ bytes = whole := by
  rw [appendHeader]
  cases layout.writeHeader header <;> simp

end Append

/-- What is left behind a buffer are the bytes of the headers that have room. -/
theorem appendHeaders_eq (buffer : List UInt8) (headers : List StructuredHeader) :
    layout.appendHeaders buffer headers =
      buffer ++ (layout.accepted headers).flatMap layout.headerBytes := by
  induction headers generalizing buffer with
  | nil => exact (List.append_nil buffer).symm
  | cons header headers ih =>
    rw [appendHeaders, List.foldl_cons, snd_appendHeader]
    refine (ih _).trans ?_
    by_cases fits : layout.Fits header.version header.kind
    · rw [if_pos fits, accepted, accepted, List.filter_cons_of_pos (by simpa using fits),
        List.flatMap_cons, List.append_assoc]
    · rw [if_neg fits, accepted, accepted, List.filter_cons_of_neg (by simpa using fits)]

theorem length_flatMap_headerBytes (headers : List StructuredHeader) :
    (headers.flatMap layout.headerBytes).length = headers.length * layout.headerLength := by
  simp [List.length_flatMap, List.map_const']

/-- Headers that have room are read back from their bytes. -/
theorem readHeaders_flatMap {headers : List StructuredHeader}
    (fit : ∀ header ∈ headers, layout.Fits header.version header.kind) (rest : List UInt8) :
    layout.readHeaders headers.length (headers.flatMap layout.headerBytes ++ rest) =
      .ok (headers, rest) := by
  induction headers with
  | nil => rfl
  | cons header headers ih =>
    have written := (layout.writeHeader_eq_ok_iff header _).mpr ⟨fit header List.mem_cons_self, rfl⟩
    have later := ih fun other listed => fit other (List.mem_cons_of_mem header listed)
    rw [List.length_cons, readHeaders, List.flatMap_cons, List.append_assoc,
      readHeader_append written]
    simp only [bind, Except.bind, later]
    rfl

/-- Only one layout has a reserved word, the fourth of its header. -/
theorem reservedWord_eq (buffer : List UInt8) :
    layout.reservedWord buffer =
      if layout = .wideReserved then Bytes.toNat ((buffer.drop 12).take 4) else 0 := by
  cases layout <;> rfl

/-- In each layout, headers that are written behind a buffer one after another are refused exactly if
the version or else the kind has no room, and leave nothing then. The others take the length of a
header each and are read back in their order, with whatever follows as the rest. A buffer has no
header at its front exactly if it is too short or its reserved word is not zero; the bytes of a
header that is read are those that writing it produces. -/
theorem headers_read_back (layout : HeaderLayout) :
    (∀ buffer (header : StructuredHeader) error,
      (layout.appendHeader buffer header).1 = .error error ↔
        (layout.maxField < header.version.toNat ∧
          error = .fieldOverflow .version header.version.toNat layout) ∨
        (header.version.toNat ≤ layout.maxField ∧ layout.maxField < header.kind.toNat ∧
          error = .fieldOverflow .kind header.kind.toNat layout)) ∧
    (∀ buffer header error, (layout.appendHeader buffer header).1 = .error error →
      (layout.appendHeader buffer header).2 = buffer) ∧
    (∀ buffer headers, ∃ written,
      layout.appendHeaders buffer headers = buffer ++ written ∧
        written.length = (layout.accepted headers).length * layout.headerLength ∧
        ∀ rest, layout.readHeaders (layout.accepted headers).length (written ++ rest) =
          .ok (layout.accepted headers, rest)) ∧
    (∀ buffer error, layout.readHeader buffer = .error error ↔
      (buffer.length < layout.headerLength ∧
        error = .truncated layout.headerLength buffer.length) ∨
      (layout.headerLength ≤ buffer.length ∧ layout = .wideReserved ∧
        Bytes.toNat ((buffer.drop 12).take 4) ≠ 0 ∧
        error = .reservedNotZero (.ofNat (Bytes.toNat ((buffer.drop 12).take 4))))) ∧
    (∀ buffer header rest, layout.readHeader buffer = .ok (header, rest) ↔
      ∃ bytes, layout.appendHeader [] header = (.ok (), bytes) ∧ buffer = bytes ++ rest) := by
  refine ⟨?_, ?_, ?_, ?_, ?_⟩
  · exact fun buffer header error => layout.appendHeader_eq_error_iff buffer header
  · exact fun buffer header error => layout.snd_appendHeader_of_refused
  · intro buffer headers
    have fit : ∀ header ∈ layout.accepted headers, layout.Fits header.version header.kind :=
      fun header listed => by simpa using (List.mem_filter.mp listed).2
    exact ⟨_, layout.appendHeaders_eq buffer headers, layout.length_flatMap_headerBytes _,
      layout.readHeaders_flatMap fit⟩
  · intro buffer error
    rw [readHeader_eq_error_iff, reservedWord_eq]
    by_cases reserved : layout = .wideReserved
    · simp only [reserved, if_true, true_and]
    · simp only [reserved, if_false, false_and, ne_eq, not_true_eq_false]
  · intro buffer header rest
    rw [readHeader_eq_ok_iff]
    simp only [appendHeader_eq_ok_iff, List.nil_append, exists_eq_right]

/-- The second of three headers has room for neither its version nor its kind. -/
theorem headers_read_back_around_refused :
    let headers : List StructuredHeader := [⟨1, 2, 3⟩, ⟨0x10000, 0x10000, 4⟩, ⟨5, 0xffff, 6⟩]
    (compact.appendHeader [0xaa] ⟨0x10000, 0x10000, 4⟩).1 =
        .error (.fieldOverflow .version 0x10000 .compact) ∧
      (compact.appendHeader [0xaa] ⟨0x10000, 0x10000, 4⟩).2 = [0xaa] ∧
      ∃ written, compact.appendHeaders [0xaa] headers = [0xaa] ++ written ∧
        written.length = 16 ∧
        compact.readHeaders 2 (written ++ [9, 9, 9]) =
          .ok ([⟨1, 2, 3⟩, ⟨5, 0xffff, 6⟩], [9, 9, 9]) := by
  intro headers
  have accepted : compact.accepted headers = [⟨1, 2, 3⟩, ⟨5, 0xffff, 6⟩] := by decide
  obtain ⟨refuses, unchanged, reads, _⟩ := headers_read_back .compact
  have refused := (refuses [0xaa] ⟨0x10000, 0x10000, 4⟩ _).mpr (.inl ⟨by decide, rfl⟩)
  obtain ⟨written, appended, length, read⟩ := reads [0xaa] headers
  rw [accepted] at length read
  exact ⟨refused, unchanged _ _ _ refused, written, appended, length, read [9, 9, 9]⟩

end PageMetadata.HeaderLayout
