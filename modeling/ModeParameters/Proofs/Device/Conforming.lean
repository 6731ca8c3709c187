import ModeParameters.Device.Memory
import ModeParameters.Proofs.Editor.Reading
import ModeParameters.Proofs.Page.Image

/-! # Conforming devices

A conforming device holds mode data for the variants of a page. It answers a read with as much of the
data as was allocated and refuses it where there is none, reads change nothing of what it holds, and a
write that it accepts replaces the current page, though not its savable bit. Nothing else is assumed:
the block descriptors may change with a write, and so may the other variants. The device in memory is
the plainest conforming device. -/

namespace ModeParameters

/-- Mode data in its parts. -/
structure ModeData where
  /-- The mode parameter header. -/
  header : Bytes
  /-- The block descriptors. -/
  blocks : Bytes
  /-- The page. -/
  page : Bytes
deriving DecidableEq, Repr

namespace ModeData

/-- The bytes of mode data: `header`, `blocks` and `page`, one behind the other. -/
def bytes (data : ModeData) : Bytes := data.header ++ data.blocks ++ data.page

/-- Where the page starts, behind `header` and `blocks`. -/
def offset (data : ModeData) : Nat := (data.header ++ data.blocks).length

/-- Mode data whose lengths are all correct, with a page that is `Page.HeldAt` a key. -/
structure WellFormed (data : ModeData) (size : CommandSize) (key : PageKey) : Prop where
  /-- The header has the length of one. -/
  header_length : data.header.length = size.headerLength
  /-- The declared length (`totalLengthAt`) is that of the data. -/
  total_eq : ModeHeader.totalLengthAt size data.bytes = data.bytes.length
  /-- The declared length of the block descriptors is theirs, so that `pageOffsetAt` finds the
  page. -/
  offset_eq : ModeHeader.pageOffsetAt size data.bytes = data.offset
  /-- The data can be transferred: it is no longer than `maxAllocation`. -/
  total_le : data.bytes.length ≤ size.maxAllocation
  /-- The page is one of the key. -/
  page_held : Page.HeldAt key data.page 0
  /-- The page ends where it says. -/
  length_eq : Page.lengthAt data.page 0 = data.page.length

theorem length_bytes (data : ModeData) : data.bytes.length = data.offset + data.page.length := by
  rw [bytes, offset, List.length_append]

theorem drop_bytes (data : ModeData) : data.bytes.drop data.offset = data.page :=
  List.drop_left

theorem sameHeader_bytes (data : ModeData) :
    Page.SameHeader data.page 0 data.bytes data.offset :=
  Page.sameHeader_append _ _

theorem bit_page (data : ModeData) (i : Nat) :
    data.page.bit i = data.bytes.bit (8 * data.offset + i) := by
  rw [← Bytes.bit_drop, drop_bytes]

theorem WellFormed.headerLength_le_offset {data : ModeData} {size : CommandSize} {key : PageKey}
    (h : data.WellFormed size key) : size.headerLength ≤ data.offset := by
  rw [offset, List.length_append, h.header_length]
  exact Nat.le_add_right _ _

end ModeData

namespace Page

/-- A page that can take the place of another one: it is as long, and has the same header
(`SameHeader`) but for the savable bit. -/
structure Replaces (new old : Bytes) : Prop where
  /-- The pages are equally long. -/
  length_eq : new.length = old.length
  /-- The headers agree. -/
  sameHeader : SameHeader old 0 new 0

/-- A page that was written over another one, stored with the savable bit (bit `0`) that was there
before. -/
structure StoredOver (old new stored : Bytes) : Prop where
  /-- All of the page is stored. -/
  length_eq : stored.length = new.length
  /-- The savable bit is that of the device. -/
  savable_eq : stored.bit 0 = old.bit 0
  /-- Every other bit is the one that was written. -/
  bit_eq : ∀ i, 0 < i → stored.bit i = new.bit i

end Page

variable {σ : Type}

/-- A device that **conforms** for one page and one form of the commands, as far as its state is
`steady`. What it holds of the page in a state is `held`. -/
structure Device.Conforms (device : Device σ) (size : CommandSize) (withoutBlockDescriptors : Bool)
    (key : PageKey) (held : σ → PageControl → Option ModeData) (steady : σ → Prop) : Prop where
  /-- All lengths in the data are correct (`WellFormed`). -/
  wellFormed : ∀ state, steady state → ∀ control data, held state control = some data →
    data.WellFormed size key
  /-- A read is answered with the data as far as it was allocated: `data.bytes.take allocation`. -/
  answers : ∀ state, steady state → ∀ control allocation data, held state control = some data →
    ∃ response,
      (device.sense ⟨size, withoutBlockDescriptors, control, key, allocation⟩ state).1 = .ok response ∧
        response.received = data.bytes.take allocation
  /-- A read of a variant that is not there (`held` is `none`) is refused. -/
  refuses : ∀ state, steady state → ∀ control allocation, held state control = none →
    ∃ cause,
      (device.sense ⟨size, withoutBlockDescriptors, control, key, allocation⟩ state).1 = .error cause
  /-- No read changes what is `held`. -/
  keeps : ∀ state, steady state → ∀ request,
    steady (device.sense request state).2 ∧ held (device.sense request state).2 = held state
  /-- An accepted write of a page that `Replaces` the current one is `StoredOver` it. -/
  stores : ∀ state, steady state → ∀ (request : SelectRequest) data, request.size = size →
    held state .current = some data →
    Page.Replaces (request.parameters.drop (ModeHeader.pageOffsetAt size request.parameters))
      data.page →
    (device.select request state).1 = .ok () →
    steady (device.select request state).2 ∧
      ∃ data', held (device.select request state).2 .current = some data' ∧
        Page.StoredOver data.page
          (request.parameters.drop (ModeHeader.pageOffsetAt size request.parameters)) data'.page

namespace Device.Conforms

variable {device : Device σ} {size : CommandSize} {withoutBlockDescriptors : Bool} {key : PageKey}
  {held : σ → PageControl → Option ModeData} {steady : σ → Prop} {state : σ}

/-- Reads of whatever number (`afterReads`) change nothing of what is held. -/
theorem keeps_afterReads (conforms : device.Conforms size withoutBlockDescriptors key held steady)
    (h : steady state) (requests : List SenseRequest) :
    steady (device.afterReads requests state) ∧
      held (device.afterReads requests state) = held state := by
  induction requests generalizing state with
  | nil => exact ⟨h, rfl⟩
  | cons request rest ih =>
    obtain ⟨still, same⟩ := conforms.keeps state h request
    obtain ⟨later, unchanged⟩ := ih still
    exact ⟨later, unchanged.trans same⟩

end Device.Conforms

/-! ## The device in memory -/

namespace ModeHeader

/-- A header that was written by `write` declares the lengths of the blocks and of the page. -/
theorem lengths_of_write {size : CommandSize} {blocks page : Bytes}
    (fits : size.headerLength + blocks.length + page.length ≤ size.maxAllocation) :
    totalLengthAt size (write size blocks.length page.length ++ blocks ++ page) =
        size.headerLength + blocks.length + page.length ∧
      pageOffsetAt size (write size blocks.length page.length ++ blocks ++ page) =
        size.headerLength + blocks.length := by
  cases size with
  | six =>
    simp only [CommandSize.headerLength, CommandSize.maxAllocation] at fits ⊢
    simp only [totalLengthAt, pageOffsetAt, write, CommandSize.headerLength, Bytes.ofNat,
      Bytes.byteAt, List.cons_append, List.nil_append, List.getD_cons_zero, List.getD_cons_succ,
      UInt8.toNat_ofNat', Nat.shiftRight_eq_div_pow]
    omega
  | ten =>
    simp only [CommandSize.headerLength, CommandSize.maxAllocation] at fits ⊢
    simp only [totalLengthAt, pageOffsetAt, write, CommandSize.headerLength, Bytes.ofNat,
      Bytes.wordAt, Bytes.byteAt, List.cons_append, List.nil_append, List.getD_cons_zero,
      List.getD_cons_succ, UInt8.toNat_ofNat', Nat.shiftRight_eq_div_pow]
    omega

end ModeHeader

namespace Page

/-- A page with a byte carries the key that its header names by `codeAt` and `subpageAt`. -/
theorem carriedKey_eq {page : Bytes} (h : 0 < page.length) :
    carriedKey page = ⟨codeAt page 0, subpageAt page 0⟩ := by
  have code : code? (page.drop 0) = some (codeAt page 0) := code?_drop h
  have subpage : subpageCode (page.drop 0) = subpageAt page 0 := subpageCode_drop
  rw [List.drop_zero] at code subpage
  rw [carriedKey, code, subpage, Option.getD_some]

/-- A page that `Replaces` another one has its header also with the savable bit set. -/
theorem Replaces.sameHeader_savable {new old : Bytes} (h : Replaces new old) :
    SameHeader old 0 (new.modifyHead (· ||| savableBit)) 0 := by
  intro k positive inHeader
  rw [bit_setSavable, if_neg (by omega)]
  exact h.sameHeader k positive inHeader

/-- A page that `Replaces` another one carries its key. -/
theorem Replaces.carriedKey_eq {new old : Bytes} (h : Replaces new old) (nonempty : 0 < old.length) :
    carriedKey (new.modifyHead (· ||| savableBit)) = carriedKey old := by
  have length : (new.modifyHead (· ||| savableBit)).length = old.length :=
    List.length_modifyHead.trans h.length_eq
  have same := h.sameHeader_savable
  rw [Page.carriedKey_eq nonempty, Page.carriedKey_eq (length ▸ nonempty), same.codeAt_eq,
    same.subpageAt_eq]

end Page

namespace MemoryDevice

variable {size : CommandSize} {withoutBlockDescriptors : Bool} {key : PageKey}
  {device : MemoryDevice} {page : Bytes}

/-- The mode data that a device in memory sends for a page, with the header that `ModeHeader.write`
makes. -/
def modeData (size : CommandSize) (withoutBlockDescriptors : Bool) (device : MemoryDevice)
    (page : Bytes) : ModeData :=
  let blocks := if withoutBlockDescriptors then [] else device.blockDescriptors
  ⟨ModeHeader.write size blocks.length page.length, blocks, page⟩

/-- The mode data that a device in memory holds of a page, for each variant that `page?` finds. -/
def held (size : CommandSize) (withoutBlockDescriptors : Bool) (key : PageKey)
    (device : MemoryDevice) (control : PageControl) : Option ModeData :=
  (device.page? control key).map (device.modeData size withoutBlockDescriptors)

/-- The length of `modeData` is that of the header, the block descriptors and the page. -/
theorem length_modeData (size : CommandSize) (withoutBlockDescriptors : Bool) (device : MemoryDevice)
    (page : Bytes) :
    (device.modeData size withoutBlockDescriptors page).bytes.length = size.headerLength +
      (if withoutBlockDescriptors then [] else device.blockDescriptors).length + page.length := by
  rw [ModeData.bytes, List.length_append, List.length_append, modeData, ModeHeader.length_write]

/-- A device in memory whose variants of a page are pages of the key, end where they say and can be
transferred. Its current page carries the key, and its savable bit is set, as that of every page that
was written is. -/
structure Steady (size : CommandSize) (withoutBlockDescriptors : Bool) (key : PageKey)
    (device : MemoryDevice) : Prop where
  /-- Every variant is a page of the key (`Page.HeldAt`). -/
  page_held : ∀ control page, device.page? control key = some page → Page.HeldAt key page 0
  /-- Every variant ends where it says. -/
  length_eq : ∀ control page, device.page? control key = some page →
    Page.lengthAt page 0 = page.length
  /-- Every variant can be transferred. -/
  total_le : ∀ control page, device.page? control key = some page →
    (device.modeData size withoutBlockDescriptors page).bytes.length ≤ size.maxAllocation
  /-- The current page is stored under the key that it carries. -/
  current_key : ∀ page, device.page? .current key = some page → Page.carriedKey page = key
  /-- The current page can be saved: its bit `0` is set. -/
  current_savable : ∀ page, device.page? .current key = some page → page.bit 0 = true

theorem Steady.wellFormed (h : Steady size withoutBlockDescriptors key device)
    {control : PageControl} (present : device.page? control key = some page) :
    (device.modeData size withoutBlockDescriptors page).WellFormed size key := by
  have fits := h.total_le control page present
  have header : ∀ blocks pages, (ModeHeader.write size blocks pages).length = size.headerLength :=
    fun _ _ => ModeHeader.length_write _ _ _
  simp only [modeData, ModeData.bytes, List.length_append, header] at fits
  obtain ⟨total, offset⟩ := ModeHeader.lengths_of_write fits
  refine ⟨header _ _, ?_, ?_, h.total_le control page present, h.page_held control page present,
    h.length_eq control page present⟩
  · simp only [modeData, ModeData.bytes, List.length_append, header]
    exact total
  · simp only [modeData, ModeData.bytes, ModeData.offset, List.length_append, header]
    exact offset

/-- A page that was stored (`store`) is found under its own key and control; nothing else
changes. -/
theorem page?_store (device : MemoryDevice) (control : PageControl) (page : Bytes)
    (control' : PageControl) (key' : PageKey) :
    (device.store control page).page? control' key' =
      if control' = control ∧ key' = Page.carriedKey page then some page
      else device.page? control' key' := by
  unfold store page?
  rw [List.lookup_cons]
  by_cases same : control' = control ∧ key' = Page.carriedKey page
  · obtain ⟨rfl, rfl⟩ := same
    simp
  · rw [if_neg same]
    have other : ((control', key') == (control, Page.carriedKey page)) = false := by
      rw [beq_eq_false_iff_ne, ne_eq, Prod.mk.injEq]
      exact same
    rw [other]

/-- A page that was accepted (`accept`) is the current one, and the saved one if it was to be
saved. -/
theorem page?_accept (device : MemoryDevice) (save : Bool) {page : Bytes} {key : PageKey}
    (own : Page.carriedKey (page.modifyHead (· ||| Page.savableBit)) = key) (control : PageControl) :
    (device.accept save page).page? control key =
      if control = .current ∨ control = .saved ∧ save = true then
        some (page.modifyHead (· ||| Page.savableBit))
      else device.page? control key := by
  unfold accept
  dsimp only
  rw [page?_store, own]
  cases save with
  | true =>
    rw [if_pos rfl, page?_store, own]
    cases control <;> simp
  | false => cases control <;> simp

/-- What a device sends for a page (`modeData`) does not change in length with a page that was
written. -/
theorem length_modeData_accept (device : MemoryDevice) (save : Bool) (new page : Bytes) :
    ((device.accept save new).modeData size withoutBlockDescriptors page).bytes.length =
      (device.modeData size withoutBlockDescriptors page).bytes.length := by
  have blocks : (device.accept save new).blockDescriptors = device.blockDescriptors := by
    cases save <;> rfl
  rw [length_modeData, length_modeData, blocks]

/-- A write that was accepted by `select` stored what stands where the page starts. -/
theorem accept_of_select {request : SelectRequest}
    (h : (MemoryDevice.select request device).1 = .ok ()) :
    (MemoryDevice.select request device).2 = device.accept request.save
      (request.parameters.drop (ModeHeader.pageOffsetAt request.size request.parameters)) := by
  unfold MemoryDevice.select at h ⊢
  cases read : ModeHeader.read request.size request.parameters with
  | error e =>
    rw [read] at h
    cases h
  | ok header =>
    rw [read] at h
    dsimp only at h ⊢
    split at h
    · cases h
    · next present => rw [if_neg present, ModeHeader.pageOffset_of_read read]

/-- A page that `Replaces` the current one leaves the device steady. -/
theorem Steady.accept (h : Steady size withoutBlockDescriptors key device) (save : Bool)
    {old new : Bytes} (present : device.page? .current key = some old)
    (replaces : Page.Replaces new old) :
    Steady size withoutBlockDescriptors key (device.accept save new) ∧
      (device.accept save new).page? .current key =
        some (new.modifyHead (· ||| Page.savableBit)) := by
  let stored := new.modifyHead (· ||| Page.savableBit)
  have nonempty : 0 < old.length := (h.page_held _ _ present).offset_lt
  have length : stored.length = old.length := List.length_modifyHead.trans replaces.length_eq
  have own : Page.carriedKey stored = key :=
    (replaces.carriedKey_eq nonempty).trans (h.current_key old present)
  have found := page?_accept device save own
  -- every variant is the stored page or one that was there
  have cases : ∀ control page, (device.accept save new).page? control key = some page →
      page = stored ∨ device.page? control key = some page := by
    intro control page there
    rw [found] at there
    split at there
    · exact .inl (Option.some.inj there).symm
    · exact .inr there
  have current : (device.accept save new).page? .current key = some stored := by
    rw [found, if_pos (.inl rfl)]
  refine ⟨⟨?_, ?_, ?_, ?_, ?_⟩, current⟩
  · intro control page there
    rcases cases control page there with rfl | before
    · exact (h.page_held _ _ present).congr replaces.sameHeader_savable (by rw [length])
    · exact h.page_held control page before
  · intro control page there
    rcases cases control page there with rfl | before
    · rw [replaces.sameHeader_savable.lengthAt_eq, length, h.length_eq _ _ present]
    · exact h.length_eq control page before
  · intro control page there
    rw [length_modeData_accept]
    rcases cases control page there with rfl | before
    · have fits := h.total_le _ _ present
      rw [length_modeData, ← length, ← length_modeData] at fits
      exact fits
    · exact h.total_le control page before
  · intro page there
    rw [current] at there
    cases there
    exact own
  · intro page there
    rw [current] at there
    cases there
    have nonempty_new : new ≠ [] := List.ne_nil_of_length_pos (replaces.length_eq ▸ nonempty)
    rw [Page.bit_setSavable, if_pos ⟨rfl, nonempty_new⟩]

/-- **The device in memory conforms** (`Device.Conforms`), for every page and form of the
commands. -/
theorem conforms (size : CommandSize) (withoutBlockDescriptors : Bool) (key : PageKey) :
    MemoryDevice.device.Conforms size withoutBlockDescriptors key
      (held size withoutBlockDescriptors key) (Steady size withoutBlockDescriptors key) where
  wellFormed state calm control data there := by
    obtain ⟨page, present, rfl⟩ := Option.map_eq_some_iff.1 there
    exact calm.wellFormed present
  answers state calm control allocation data there := by
    obtain ⟨page, present, rfl⟩ := Option.map_eq_some_iff.1 there
    refine ⟨.transfer (state.modeData size withoutBlockDescriptors page).bytes allocation, ?_,
      SenseResponse.received_transfer _ _⟩
    change (MemoryDevice.sense _ _).1 = _
    unfold MemoryDevice.sense
    rw [present]
    rfl
  refuses state calm control allocation there := by
    have absent := Option.map_eq_none_iff.1 there
    refine ⟨.illegalRequest, ?_⟩
    change (MemoryDevice.sense _ _).1 = _
    unfold MemoryDevice.sense
    rw [absent]
  keeps state calm request := by
    have same : (MemoryDevice.device.sense request state).2 = state := by
      change (MemoryDevice.sense request state).2 = state
      unfold MemoryDevice.sense
      split <;> rfl
    rw [same]
    exact ⟨calm, rfl⟩
  stores state calm request data form there replaces accepted := by
    obtain ⟨page, present, rfl⟩ := Option.map_eq_some_iff.1 there
    have stored := accept_of_select accepted
    rw [form] at stored
    obtain ⟨still, current⟩ := calm.accept request.save present replaces
    change Steady _ _ _ (MemoryDevice.select request state).2 ∧
      ∃ data', held _ _ _ (MemoryDevice.select request state).2 .current = some data' ∧ _
    rw [stored]
    have savable := still.current_savable _ current
    refine ⟨still, _, Option.map_eq_some_iff.2 ⟨_, current, rfl⟩, ?_⟩
    refine ⟨List.length_modifyHead, savable.trans (calm.current_savable _ present).symm, ?_⟩
    intro i positive
    exact (Page.bit_setSavable _ i).trans (if_neg (by omega))

end MemoryDevice

end ModeParameters
