import ModeParameters.Editor.Fetch
import ModeParameters.Proofs.Attempt
import ModeParameters.Proofs.Page.Header

/-! # Which responses are accepted

A response is judged by lengths that the device chooses: how much arrived, how much it declares, where
the block descriptors end and how long the page says it is. `WellFormedResponse` states the conditions
on the bytes alone, and `validate_eq_ok_iff` says that they decide: no other response is accepted, and
none of these is refused. -/

namespace ModeParameters

/-- The length field is a part of the header. -/
theorem CommandSize.lengthFieldWidth_le_headerLength (size : CommandSize) :
    size.lengthFieldWidth ≤ size.headerLength := by
  cases size <;> decide

namespace ModeHeader

/-- The length of the whole mode data, as the first bytes declare it: the length field does not
count itself. -/
def totalLengthAt (size : CommandSize) (bytes : Bytes) : Nat :=
  match size with
  | .six => bytes.byteAt 0 + 1
  | .ten => bytes.wordAt 0 + 2

/-- Where the page starts: behind the header and the block descriptors. -/
def pageOffsetAt (size : CommandSize) (bytes : Bytes) : Nat :=
  match size with
  | .six => 4 + bytes.byteAt 3
  | .ten => 8 + bytes.wordAt 6

variable {size : CommandSize} {bytes : Bytes} {header : ModeHeader}

/-- The page starts behind the header, of `size.headerLength` bytes. -/
theorem headerLength_le_pageOffsetAt (size : CommandSize) (bytes : Bytes) :
    size.headerLength ≤ pageOffsetAt size bytes := by
  cases size <;> exact Nat.le_add_right _ _

/-- A header is read where there are `size.headerLength` bytes for one. -/
theorem exists_read (h : size.headerLength ≤ bytes.length) : ∃ header, read size bytes = .ok header := by
  unfold read
  rw [if_neg (Nat.not_lt.2 h)]
  exact ⟨_, rfl⟩

theorem headerLength_le_of_read (h : read size bytes = .ok header) :
    size.headerLength ≤ bytes.length := by
  unfold read at h
  split at h
  · cases h
  · next enough => exact Nat.not_lt.1 enough

theorem totalLength_of_read (h : read size bytes = .ok header) :
    header.totalLength = totalLengthAt size bytes := by
  have enough := headerLength_le_of_read h
  unfold read at h
  rw [if_neg (Nat.not_lt.2 enough)] at h
  cases h
  cases size with
  | six =>
    have field : 0 < bytes.length := Nat.lt_of_lt_of_le (by decide) enough
    exact congrArg (· + 1) (Bytes.toNat_window_one field)
  | ten =>
    have field : 0 + 1 < bytes.length := Nat.lt_of_lt_of_le (by decide) enough
    exact congrArg (· + 2) (Bytes.toNat_window_two field)

theorem pageOffset_of_read (h : read size bytes = .ok header) :
    header.pageOffset = pageOffsetAt size bytes := by
  have enough := headerLength_le_of_read h
  unfold read at h
  rw [if_neg (Nat.not_lt.2 enough)] at h
  cases h
  cases size with
  | six =>
    have field : 3 < bytes.length := Nat.lt_of_lt_of_le (by decide) enough
    exact congrArg (4 + ·) (Bytes.toNat_window_one field)
  | ten =>
    have field : 6 + 1 < bytes.length := Nat.lt_of_lt_of_le (by decide) enough
    exact congrArg (8 + ·) (Bytes.toNat_window_two field)

/-- The declared length is known from the header, the first `size.headerLength` bytes. -/
theorem totalLengthAt_congr {size : CommandSize} {bytes bytes' : Bytes}
    (same : ∀ i < 8 * size.headerLength, bytes'.bit i = bytes.bit i) :
    totalLengthAt size bytes' = totalLengthAt size bytes := by
  cases size with
  | six =>
    have field : bytes'.byteAt 0 = bytes.byteAt 0 :=
      Bytes.byteAt_congr fun k small => same _ (by simp only [CommandSize.headerLength]; omega)
    exact congrArg (· + 1) field
  | ten =>
    have field : bytes'.wordAt 0 = bytes.wordAt 0 :=
      Bytes.wordAt_congr fun k small => same _ (by simp only [CommandSize.headerLength]; omega)
    exact congrArg (· + 2) field

/-- The place of the page is known from the header, and not from the length of the mode data, which
is its first `size.lengthFieldWidth` bytes. -/
theorem pageOffsetAt_congr {size : CommandSize} {bytes bytes' : Bytes}
    (same : ∀ i, 8 * size.lengthFieldWidth ≤ i → i < 8 * size.headerLength →
      bytes'.bit i = bytes.bit i) :
    pageOffsetAt size bytes' = pageOffsetAt size bytes := by
  cases size with
  | six =>
    have field : bytes'.byteAt 3 = bytes.byteAt 3 := by
      apply Bytes.byteAt_congr
      intro k small
      exact same _ (by simp only [CommandSize.lengthFieldWidth]; omega)
        (by simp only [CommandSize.headerLength]; omega)
    exact congrArg (4 + ·) field
  | ten =>
    have field : bytes'.wordAt 6 = bytes.wordAt 6 := by
      apply Bytes.wordAt_congr
      intro k small
      exact same _ (by simp only [CommandSize.lengthFieldWidth]; omega)
        (by simp only [CommandSize.headerLength]; omega)
    exact congrArg (8 + ·) field

/-- What lies behind the header is of no account for the declared length: `take` may cut it off. -/
theorem totalLengthAt_take {size : CommandSize} {count : Nat} (room : size.headerLength ≤ count)
    (bytes : Bytes) : totalLengthAt size (bytes.take count) = totalLengthAt size bytes := by
  refine totalLengthAt_congr fun i inHeader => ?_
  rw [Bytes.bit_take, decide_eq_true (by omega), Bool.true_and]

/-- What lies behind the header is of no account for the place of the page: `take` may cut it
off. -/
theorem pageOffsetAt_take {size : CommandSize} {count : Nat} (room : size.headerLength ≤ count)
    (bytes : Bytes) : pageOffsetAt size (bytes.take count) = pageOffsetAt size bytes := by
  refine pageOffsetAt_congr fun i _ inHeader => ?_
  rw [Bytes.bit_take, decide_eq_true (by omega), Bool.true_and]

end ModeHeader

/-- Bytes that hold a whole page of `key` from `offset` on. -/
structure Page.HeldAt (key : PageKey) (bytes : Bytes) (offset : Nat) : Prop where
  /-- The page header is there. -/
  header_le : offset + headerLengthAt bytes offset ≤ bytes.length
  /-- The page carries the code of the key, or the older code `0x0D` of the power condition page. -/
  code_eq : codeAt bytes offset = key.page ∨ key.page = 0x1A ∧ codeAt bytes offset = 0x0D
  /-- The page carries the subpage code of the key. -/
  subpage_eq : subpageAt bytes offset = key.subpage
  /-- The page ends where it says, or before. -/
  length_le : offset + lengthAt bytes offset ≤ bytes.length

theorem Page.HeldAt.offset_lt {key : PageKey} {bytes : Bytes} {offset : Nat}
    (h : HeldAt key bytes offset) : offset < bytes.length := by
  have positive : 0 < headerLengthAt bytes offset := headerLengthAt_pos
  have fits := h.header_le
  omega

/-- A page with the same header (`SameHeader`) that has as many bytes is held too. -/
theorem Page.HeldAt.congr {key : PageKey} {bytes bytes' : Bytes} {offset offset' : Nat}
    (h : HeldAt key bytes offset) (same : SameHeader bytes offset bytes' offset')
    (length : bytes'.length + offset = bytes.length + offset') : HeldAt key bytes' offset' where
  header_le := by
    have fits := h.header_le
    rw [same.headerLengthAt_eq]
    omega
  code_eq := by
    rw [same.codeAt_eq]
    exact h.code_eq
  subpage_eq := by
    rw [same.subpageAt_eq]
    exact h.subpage_eq
  length_le := by
    have fits := h.length_le
    rw [same.lengthAt_eq]
    omega

/-- The codes that answer a request are its own and the older one, `0x0D` for `0x1A`. -/
theorem Page.answers_iff {requested reported : UInt8} :
    answers requested reported = true ↔
      reported = requested ∨ requested = 0x1A ∧ reported = 0x0D := by
  unfold answers equivalentCodes
  rw [Bool.or_eq_true, beq_iff_eq, List.contains_iff_mem, List.mem_singleton, Prod.mk.injEq,
    @eq_comm _ requested reported]

/-- An error of a whole response: it is cut or too long, or it is that of another page. Only
`fieldBeyondPage` and `descriptor` say something of fields and descriptors. -/
def ResponseError.OfWhole : ResponseError → Prop
  | .fieldBeyondPage .. => False
  | .descriptor .. => False
  | _ => True

namespace Editor

/-- How many bytes of a response count: those declared, but no more than were allocated. -/
def keptLength (size : CommandSize) (allocation : Nat) (received : Bytes) : Nat :=
  min (ModeHeader.totalLengthAt size received) allocation

/-- The bytes of a response that count, the first `keptLength`. -/
def kept (size : CommandSize) (allocation : Nat) (received : Bytes) : Bytes :=
  received.take (keptLength size allocation received)

theorem keptLength_le (size : CommandSize) (allocation : Nat) (received : Bytes) :
    keptLength size allocation received ≤ allocation := Nat.min_le_right _ _

/-- The bytes that count have the bits of the response, those below `8 * keptLength`. -/
theorem bit_kept {size : CommandSize} {allocation i : Nat} {received : Bytes}
    (h : i < 8 * keptLength size allocation received) :
    (kept size allocation received).bit i = received.bit i := by
  rw [kept, Bytes.bit_take, decide_eq_true h, Bool.true_and]

/-- No byte counts that was not allocated: `take` with the allocation changes nothing. -/
theorem kept_take {size : CommandSize} {allocation : Nat} (room : size.headerLength ≤ allocation)
    (data : Bytes) : kept size allocation (data.take allocation) = kept size allocation data := by
  have length := keptLength_le size allocation data
  rw [kept, kept, keptLength, ModeHeader.totalLengthAt_take room, ← keptLength, List.take_take,
    Nat.min_eq_left length]

/-- A response that an editor can use for a page. -/
structure WellFormedResponse (editor : Editor) (key : PageKey) (allocation : Nat)
    (received : Bytes) : Prop where
  /-- The header arrived. -/
  header_le : editor.config.size.headerLength ≤ received.length
  /-- No more is declared than was allocated, unless `flexible` bears that. -/
  total_le : ModeHeader.totalLengthAt editor.config.size received ≤ allocation ∨
    editor.config.flexible = true
  /-- Every byte that counts arrived. -/
  kept_le : keptLength editor.config.size allocation received ≤ received.length
  /-- The bytes that count hold the page, behind the header and the block descriptors. -/
  page_held : Page.HeldAt key (kept editor.config.size allocation received)
    (ModeHeader.pageOffsetAt editor.config.size received)

variable {editor : Editor} {key : PageKey} {control : PageControl} {allocation : Nat}

/-- The length that a response has to have is `min declared allocation`; there is none if more was
declared than allocated, unless `flexible` bears that. -/
theorem expectedLength_eq_ok_iff {declared n : Nat} :
    (editor.expectedLength key control declared allocation).value = .ok n ↔
      (declared ≤ allocation ∨ editor.config.flexible = true) ∧ n = min declared allocation := by
  unfold expectedLength
  by_cases enough : declared ≤ allocation
  · rw [if_pos enough, Nat.min_eq_left enough]
    constructor
    · intro h
      cases h
      exact ⟨.inl enough, rfl⟩
    · rintro ⟨-, rfl⟩
      rfl
  · -- too much is declared, and the configuration decides
    rw [if_neg enough, Nat.min_eq_right (Nat.le_of_not_le enough)]
    cases flexible : editor.config.flexible with
    | true =>
      constructor
      · intro h
        cases h
        exact ⟨.inr rfl, rfl⟩
      · rintro ⟨-, rfl⟩
        rfl
    | false =>
      constructor
      · intro h
        cases h
      · rintro ⟨within | bearing, -⟩
        · exact absurd within enough
        · cases bearing

/-- An image is taken from bytes exactly when they hold the page at `offset`, and is then of these
bytes. -/
theorem imageAt_eq_ok_iff {bytes : Bytes} {offset : Nat} {image : PageImage} :
    (imageAt key control bytes offset).value = .ok image ↔
      Page.HeldAt key bytes offset ∧ image.control = control ∧ image.response = bytes ∧
        image.offset = offset ∧ image.pageLength = Page.lengthAt bytes offset := by
  dsimp only [imageAt]
  by_cases start : offset < bytes.length
  · by_cases header : offset + Page.headerLengthAt bytes offset ≤ bytes.length
    · rw [Page.code?_drop start, Page.reportedLength?_drop, if_pos header]
      dsimp only
      rw [Page.subpageCode_drop, Attempt.value_ite]
      by_cases mismatch : ¬ Page.answers key.page (Page.codeAt bytes offset) = true ∨
          Page.subpageAt bytes offset ≠ key.subpage
      · -- another page
        rw [if_pos mismatch]
        constructor
        · intro h
          cases h
        · rintro ⟨held, -⟩
          rcases mismatch with code | subpage
          · exact absurd (Page.answers_iff.2 held.code_eq) code
          · exact absurd held.subpage_eq subpage
      · -- the remark on an older code decides nothing
        rw [if_neg mismatch, Attempt.value_ite, Attempt.value_bind, Attempt.value_liftLogged,
          Except.bind, ite_self]
        rw [not_or, Decidable.not_not, Decidable.not_not, Page.answers_iff] at mismatch
        by_cases fits : offset + Page.lengthAt bytes offset ≤ bytes.length
        · rw [dif_pos fits, Attempt.value_pure]
          constructor
          · intro h
            cases h
            exact ⟨⟨header, mismatch.1, mismatch.2, fits⟩, rfl, rfl, rfl, rfl⟩
          · rintro ⟨-, rfl, rfl, rfl, length⟩
            cases image
            simp only at length
            simp only [length]
        · -- the page is cut
          rw [dif_neg fits]
          constructor
          · intro h
            cases h
          · rintro ⟨held, -⟩
            exact absurd held.length_le fits
    · -- the page header is cut
      rw [Page.code?_drop start, Page.reportedLength?_drop, if_neg header]
      constructor
      · intro h
        cases h
      · rintro ⟨held, -⟩
        exact absurd held.header_le header
  · -- the page starts behind the end
    rw [List.drop_eq_nil_of_le (Nat.not_lt.1 start)]
    constructor
    · intro h
      cases h
    · rintro ⟨held, -⟩
      exact absurd held.offset_lt start

/-- **A response is accepted exactly when it is well formed**, and its image is then the bytes that
count (`kept`) with the page where the header puts it. -/
theorem validate_eq_ok_iff {response : SenseResponse} {image : PageImage} :
    (editor.validate key control response allocation).value = .ok image ↔
      WellFormedResponse editor key allocation response.received ∧
        image.control = control ∧
        image.response = kept editor.config.size allocation response.received ∧
        image.offset = ModeHeader.pageOffsetAt editor.config.size response.received ∧
        image.pageLength = Page.lengthAt (kept editor.config.size allocation response.received)
          (ModeHeader.pageOffsetAt editor.config.size response.received) := by
  unfold validate
  simp only [Attempt.value_bind_eq_ok_iff, Attempt.value_liftExcept, Attempt.value_ite,
    expectedLength_eq_ok_iff]
  constructor
  · -- the conditions are those of the steps, one after the other
    rintro ⟨header, read, expected, ⟨total, rfl⟩, rest⟩
    rw [ModeHeader.totalLength_of_read read] at total rest
    rw [ModeHeader.pageOffset_of_read read] at rest
    split at rest
    · cases rest
    · next arrived =>
      obtain ⟨held, image⟩ := imageAt_eq_ok_iff.1 rest
      exact ⟨⟨ModeHeader.headerLength_le_of_read read, total, Nat.not_lt.1 arrived, held⟩, image⟩
  · rintro ⟨wellFormed, image⟩
    obtain ⟨header, read⟩ := ModeHeader.exists_read wellFormed.header_le
    refine ⟨header, read, _, ⟨?_, rfl⟩, ?_⟩
    · rw [ModeHeader.totalLength_of_read read]
      exact wellFormed.total_le
    · have arrived := Nat.not_lt.2 wellFormed.kept_le
      unfold keptLength at arrived
      rw [ModeHeader.totalLength_of_read read, ModeHeader.pageOffset_of_read read, if_neg arrived]
      exact imageAt_eq_ok_iff.2 ⟨wellFormed.page_held, image⟩

/-- **Data of which as much arrived as was allocated**, `data.take allocation`, is judged like the
data. -/
theorem wellFormedResponse_take_iff {data : Bytes}
    (room : editor.config.size.headerLength ≤ allocation) :
    editor.WellFormedResponse key allocation (data.take allocation) ↔
      editor.WellFormedResponse key allocation data := by
  have total := ModeHeader.totalLengthAt_take room data
  have offset := ModeHeader.pageOffsetAt_take room data
  have bytes := kept_take room data
  have length : keptLength editor.config.size allocation (data.take allocation) =
      keptLength editor.config.size allocation data := by rw [keptLength, total, ← keptLength]
  have within := keptLength_le editor.config.size allocation data
  constructor
  · rintro ⟨header_le, total_le, kept_le, page_held⟩
    rw [List.length_take] at header_le kept_le
    rw [total] at total_le
    rw [length] at kept_le
    rw [bytes, offset] at page_held
    exact ⟨by omega, total_le, by omega, page_held⟩
  · rintro ⟨header_le, total_le, kept_le, page_held⟩
    refine ⟨?_, ?_, ?_, ?_⟩
    · rw [List.length_take]
      omega
    · rw [total]
      exact total_le
    · rw [length, List.length_take]
      omega
    · rw [bytes, offset]
      exact page_held

/-- What speaks against a header is an error of the whole response. -/
theorem ofWhole_of_read {size : CommandSize} {bytes : Bytes} {e : ResponseError}
    (h : ModeHeader.read size bytes = .error e) : e.OfWhole := by
  unfold ModeHeader.read at h
  split at h
  · cases h
    trivial
  · cases h

/-- What speaks against taking an image from bytes is an error of the whole response: `imageAt`
reads no field. -/
theorem ofWhole_of_imageAt {bytes : Bytes} {offset : Nat} {e : ResponseError}
    (h : (imageAt key control bytes offset).value = .error e) : e.OfWhole := by
  dsimp only [imageAt] at h
  split at h
  · rw [Attempt.value_ite] at h
    split at h
    · cases h
      trivial
    · -- the remark on an older code decides nothing
      rw [Attempt.value_ite, Attempt.value_bind, Attempt.value_liftLogged, Except.bind,
        ite_self] at h
      split at h
      · cases h
      · cases h
        trivial
  · cases h
    trivial

/-- **What speaks against a response** in `validate` is an error of the whole of it. -/
theorem ofWhole_of_validate {response : SenseResponse} {e : ResponseError}
    (h : (editor.validate key control response allocation).value = .error e) : e.OfWhole := by
  unfold validate at h
  simp only [Attempt.value_bind, Attempt.value_liftExcept, Attempt.value_ite] at h
  rcases bind_eq_error_iff.1 h with unread | ⟨header, -, h⟩
  · exact ofWhole_of_read unread
  rcases bind_eq_error_iff.1 h with excessive | ⟨expected, -, h⟩
  · unfold expectedLength at excessive
    split at excessive
    · cases excessive
    split at excessive
    · cases excessive
    · cases excessive
      trivial
  split at h
  · cases h
    trivial
  · exact ofWhole_of_imageAt h

/-- A well-formed response has an image: `validate` succeeds. -/
theorem WellFormedResponse.exists_image {response : SenseResponse}
    (h : WellFormedResponse editor key allocation response.received) (control : PageControl) :
    ∃ image, (editor.validate key control response allocation).value = .ok image := by
  exact ⟨⟨control, kept editor.config.size allocation response.received,
    ModeHeader.pageOffsetAt editor.config.size response.received, _, h.page_held.length_le⟩,
    validate_eq_ok_iff.2 ⟨h, rfl, rfl, rfl, rfl⟩⟩

end Editor

end ModeParameters
