import Mathlib.Data.List.Induction
import ModeParameters.Proofs.Editor.PageReports

/-! # Fields tied to a descriptor id

The details of a field are given one after the other, in any order, and of each kind the last one
stands. A field with an id that shares its place is tied to the descriptors with this id: it means
nothing in a descriptor that carries another one, and the report of a page has no entry for it there.
A descriptor that carries no id, the only one of a page without descriptors among them, is not told
apart, and the field is reported in it. -/

namespace ModeParameters

/-- One detail in the description of a field, as one of `Field.withFlags`, `restrictedTo`,
`withDescriptorId` and `withExtra` sets it. -/
inductive FieldDetail
  /-- How it is shown and matched. -/
  | hints (flags : FieldFlags)
  /-- The devices it is for. -/
  | devices (filter : DeviceFilter)
  /-- The id of its descriptors. -/
  | descriptorId (id : Nat)
  /-- What its values mean. -/
  | extra (text : String)
deriving DecidableEq, Repr

namespace FieldDetail

/-- The descriptor id that a detail gives. -/
def id? : FieldDetail → Option Nat
  | .descriptorId id => some id
  | _ => none

/-- What a detail says on `clashOk`, that is, whether the field shares its place. -/
def sharing? : FieldDetail → Option Bool
  | .hints flags => some flags.clashOk
  | .descriptorId _ => some true
  | _ => none

/-- The last descriptor id that details give: `id?` of the last detail that has one. -/
def lastId? (details : List FieldDetail) : Option Nat := (details.filterMap id?).getLast?

/-- What details say at last on `clashOk`, the last one that says anything. -/
def lastSharing? (details : List FieldDetail) : Option Bool := (details.filterMap sharing?).getLast?

/-- Where an id is given something is said on `clashOk`: `withDescriptorId` sets it. -/
theorem lastSharing?_ne_none {details : List FieldDetail} (h : lastId? details ≠ none) :
    lastSharing? details ≠ none := by
  simp only [lastId?, lastSharing?, Ne, List.getLast?_eq_none_iff, List.filterMap_eq_nil_iff]
    at h ⊢
  intro silent
  refine h fun detail mem => ?_
  have nothing := silent detail mem
  cases detail with
  | descriptorId id => cases nothing
  | hints flags => rfl
  | devices filter => rfl
  | extra text => rfl

end FieldDetail

/-! ## Details of a field -/

namespace Field

open FieldDetail (lastId? lastSharing?)

variable {field : Field} {details : List FieldDetail} {id : Nat}

/-- A field with one more detail. -/
def withDetail (field : Field) : FieldDetail → Field
  | .hints flags => field.withFlags flags
  | .devices filter => field.restrictedTo filter
  | .descriptorId id => field.withDescriptorId id
  | .extra text => field.withExtra text

/-- A field with details, given one after the other by `withDetail`. -/
def withDetails (field : Field) (details : List FieldDetail) : Field := details.foldl withDetail field

/-- **The last detail stands.** A part of the description that every detail either sets, to what
`said` gives, or leaves is what the last detail that sets it says. -/
theorem part_withDetails {α : Type} (part : Field → α) {said : FieldDetail → Option α}
    (step : ∀ field detail, part (withDetail field detail) = (said detail).getD (part field))
    (field : Field) (details : List FieldDetail) :
    part (field.withDetails details) = (details.filterMap said).getLast?.getD (part field) := by
  induction details using List.reverseRecOn with
  | nil => rfl
  | append_singleton before last ih =>
    have more : field.withDetails (before ++ [last]) = (field.withDetails before).withDetail last := by
      simp [withDetails]
    rw [more, step, ih, List.filterMap_append]
    cases told : said last <;> simp [told]

/-- The descriptor id is the last one given, in four bits: `lastId?` modulo 16. -/
theorem descriptorId_withDetails (field : Field) (details : List FieldDetail) :
    (field.withDetails details).descriptorId =
      ((lastId? details).map fun id => some (id % 16)).getD field.descriptorId := by
  have step (field : Field) (detail : FieldDetail) : (field.withDetail detail).descriptorId =
      (detail.id?.map fun id => some (id % 16)).getD field.descriptorId := by
    cases detail <;> rfl
  rw [part_withDetails Field.descriptorId step, lastId?, ← List.getLast?_map, List.map_filterMap]

/-- A field shares its place as `lastSharing?` says. -/
theorem clashOk_withDetails (field : Field) (details : List FieldDetail) :
    (field.withDetails details).flags.clashOk =
      (lastSharing? details).getD field.flags.clashOk := by
  have step (field : Field) (detail : FieldDetail) : (field.withDetail detail).flags.clashOk =
      detail.sharing?.getD field.flags.clashOk := by
    cases detail <;> rfl
  exact part_withDetails (fun field => field.flags.clashOk) step field details

/-- A field is tied to the descriptors with the id `id`. -/
structure TiedTo (field : Field) (id : Nat) : Prop where
  /-- It has this id. -/
  descriptorId : field.descriptorId = some id
  /-- It shares its place with fields of other descriptors. -/
  clashOk : field.flags.clashOk = true

/-- A field that is given an id is tied to its low four bits, unless `lastSharing?` denies that the
field shares its place. -/
theorem tiedTo_withDetails (given : lastId? details = some id)
    (shared : lastSharing? details ≠ some false) : (field.withDetails details).TiedTo (id % 16) where
  descriptorId := by rw [descriptorId_withDetails, given]; rfl
  clashOk := by
    have said : lastSharing? details ≠ none :=
      FieldDetail.lastSharing?_ne_none (by rw [given]; exact Option.some_ne_none id)
    rw [clashOk_withDetails]
    cases last : lastSharing? details with
    | none => exact absurd last said
    | some sharing =>
      cases sharing with
      | false => exact absurd last shared
      | true => rfl

/-- Where `field` brought no id of its own, the one it has with details was given to it, and is
`given % 16`. -/
theorem exists_given (has : (field.withDetails details).descriptorId = some id)
    (own : field.descriptorId = none ∨ lastId? details ≠ none) :
    ∃ given, lastId? details = some given ∧ id = given % 16 := by
  rw [descriptorId_withDetails] at has
  cases last : lastId? details with
  | none =>
    rw [last, Option.map_none, Option.getD_none] at has
    rcases own with own | own
    · rw [own] at has
      cases has
    · exact absurd last own
  | some given =>
    rw [last] at has
    exact ⟨given, rfl, (Option.some.inj has).symm⟩

end Field

/-! ## Descriptors -/

section Descriptors

variable {layout : Layout} {plan : PagePlan} {field : Field} {id index : Nat}

/-- A tied field `applies` in a descriptor in which it lies, unless the descriptor carries another
id. -/
theorem Layout.applies_of_tiedTo (tied : field.TiedTo id) : layout.applies field index = true ↔
    index < layout.count ∧ (layout.holds field = true ∨ index = 0) ∧
      ∀ carried, layout.idOf? index = some carried → carried = id := by
  rw [applies, tied.descriptorId, tied.clashOk]
  cases layout.idOf? index <;> simp [and_assoc, @eq_comm _ id]

/-- The id that a descriptor of a page carries, if there is a layout and `Layout.idOf?` gives
one. -/
def PagePlan.idOf? (plan : PagePlan) (index : Nat) : Option Nat :=
  plan.layout.bind fun layout => layout.idOf? index

/-- A field has an address only in a descriptor in which it lies: `holds`, or the first one. -/
theorem Layout.holds_or_eq_zero {offset : Nat} (found : layout.offsetOf? field index = some offset) :
    layout.holds field = true ∨ index = 0 := by
  by_contra neither
  obtain ⟨outside, behind⟩ := not_or.1 neither
  rw [offsetOf?, if_neg outside, if_neg behind] at found
  cases found

/-- In a page a tied field `applies` where it has an address, unless the descriptor carries another
id. -/
theorem PagePlan.applies_of_tiedTo (tied : field.TiedTo id) {offset : Nat}
    (found : plan.offsetOf? field index = some offset) : plan.applies field index = true ↔
      index < plan.count ∧ ∀ carried, plan.idOf? index = some carried → carried = id := by
  rw [offsetOf?] at found
  rw [applies, count, idOf?]
  cases laid : plan.layout with
  | none =>
    rw [laid] at found
    have first : index = 0 := by
      by_contra behind
      rw [if_neg behind] at found
      cases found
    simp [first]
  | some layout =>
    rw [laid] at found
    simp [Layout.applies_of_tiedTo tied, Layout.holds_or_eq_zero found]

end Descriptors

/-! ## Reports -/

namespace Editor

open FieldDetail (lastId? lastSharing?)

variable {σ : Type} {editor : Editor} {device : Device σ} {key : PageKey} {state : σ}

/-- **Where a tied field is reported**: in the descriptors whose `idOf?` is its id or `none`, as far
as it ends within the page. -/
theorem lists_iff_of_tiedTo {report : PageReport} {field : Field} {id : Nat} (tied : field.TiedTo id)
    (reported : (Session.effect (editor.readPage device key) state).result = .ok report) :
    ∃ images current plan, editor.Planned device key PageControl.all state images current plan ∧
      ∀ index, report.Lists field index ↔
        (∀ carried, plan.idOf? index = some carried → carried = id) ∧
          field ∈ editor.fieldsOf key ∧ index < plan.count ∧
            ∃ start, plan.offsetOf? field index = some start ∧ plan.endsBeyond field start = false := by
  obtain ⟨images, current, plan, fields, planned, made, rfl⟩ := result_readPage_iff.1 reported
  refine ⟨images, current, plan, planned, fun index => ?_⟩
  have listed : (∃ entry ∈ fields, entry.field = field ∧ entry.index = index) ↔ _ :=
    PagePlan.exists_mem_reportFields_iff made
  rw [PageReport.Lists, listed]
  constructor
  · rintro ⟨mem, applied, start, found, within⟩
    obtain ⟨bound, same⟩ := (PagePlan.applies_of_tiedTo tied found).1 applied
    exact ⟨same, mem, bound, start, found, within⟩
  · rintro ⟨same, mem, bound, start, found, within⟩
    exact ⟨mem, (PagePlan.applies_of_tiedTo tied found).2 ⟨bound, same⟩, start, found, within⟩

/-- **A field with a descriptor id is told apart by it.** Let `details` be given to a field in any
order and number, and let it have `id` in the end, which it did not bring along unless another one
was given. Then `id` is `given % 16` for the last one given. Unless `lastSharing?` denies it, the
field has `clashOk`; then it does not apply in a descriptor that carries another id, and the report
of a page has an entry for it in exactly those descriptors in which it ends within the page and
which carry its id or none. -/
theorem ids_tell_apart (field : Field) (details : List FieldDetail) (id : Nat)
    (own : field.descriptorId = none ∨ lastId? details ≠ none)
    (has : (field.withDetails details).descriptorId = some id) :
    let tied := field.withDetails details
    (∃ given, lastId? details = some given ∧ id = given % 16) ∧
      (lastSharing? details ≠ some false →
        tied.flags.clashOk = true ∧
        (∀ (layout : Layout) (index carried : Nat), layout.idOf? index = some carried →
          carried ≠ id → layout.applies tied index = false) ∧
        ∀ {σ : Type} (editor : Editor) (device : Device σ) (key : PageKey) (state : σ)
          (report : PageReport),
          (Session.effect (editor.readPage device key) state).result = .ok report →
            ∃ images current plan,
              editor.Planned device key PageControl.all state images current plan ∧
              ∀ index, report.Lists tied index ↔
                (∀ carried, plan.idOf? index = some carried → carried = id) ∧
                  tied ∈ editor.fieldsOf key ∧ index < plan.count ∧
                    ∃ start, plan.offsetOf? tied index = some start ∧
                      plan.endsBeyond tied start = false) := by
  intro tied
  obtain ⟨given, told, rfl⟩ := Field.exists_given has own
  refine ⟨⟨given, told, rfl⟩, fun shared => ?_⟩
  have ties : tied.TiedTo (given % 16) := Field.tiedTo_withDetails told shared
  refine ⟨ties.clashOk, fun layout index carried found other => ?_, ?_⟩
  · rw [← Bool.not_eq_true, Layout.applies_of_tiedTo ties]
    rintro ⟨-, -, same⟩
    exact other (same carried found)
  · intro σ editor device key state report reported
    exact lists_iff_of_tiedTo ties reported

end Editor

/-! ## Three phys, the last one cut -/

namespace Sample

open FieldDetail (lastId? lastSharing?)
open ModeParameters.Field (named)

/-- The hints and the descriptor id of an identifier. -/
def identifierDetails : List FieldDetail := [.hints common, .descriptorId 0x12]

/-- The identifier of a phy, before it is tied to a descriptor id. -/
def untiedIdentifier : Field := named "PHID" phyControl.key ⟨9, 7, 8⟩ "Phy identifier"

/-- The identifier of the phys with the id 2: the low four bits of `0x12`. -/
def tiedIdentifier : Field := untiedIdentifier.withDetails identifierDetails

/-- Phy descriptors of four bytes, with an id in their byte 2. -/
def markedDescriptors : DescriptorBlock := { phyDescriptors with stride := .fixed 4, idOffset := some 2 }

/-- The page of these descriptors. -/
def markedPhyControl : PageEntry := { phyControl with descriptors := some markedDescriptors }

/-- An editor whose tables have `markedPhyControl` and `tiedIdentifier`. -/
def markedEditor : Editor :=
  { sixByteEditor with
    registry := { generic := { pages := [markedPhyControl], fields := [tiedIdentifier] } } }

/-- The current values of the page: phys with the ids 1 and 2 at 8 and 12, and one at 16 that ends
before its id. -/
def cutPhyPage : Bytes :=
  [0x59, 0x01, 0x00, 0x0E, 0x00, 0x06, 0x00, 0x03,
   0x00, 0x0A, 0x01, 0x00, 0x00, 0x0B, 0x02, 0x00, 0x00, 0x0C]

/-- A device with this page. -/
def cutPhyDevice : MemoryDevice where
  identity := cachingDevice.identity
  pages := [((.current, phyControl.key), cutPhyPage)]

/-- Where the phys are, and their ids: `none` for the one that is cut. -/
def markedLayout : Layout := ⟨markedDescriptors, [8, 12, 16], [some 1, some 2, none]⟩

/-- What is planned for the page. -/
def markedPlan : PagePlan := ⟨phyControl.key, some markedLayout, 18, false⟩

/-- The page as it is read. -/
def cutPhyImage : PageImage where
  control := .current
  response := [0x15, 0x00, 0x00, 0x00] ++ cutPhyPage
  offset := 4
  pageLength := 18
  page_le := by decide

theorem planned_cutPhyPage :
    markedEditor.Planned MemoryDevice.device phyControl.key PageControl.all cutPhyDevice
      { current := some cutPhyImage } cutPhyImage markedPlan where
  fetched := by decide +kernel
  present := rfl
  planned := by decide +kernel

/-- The report of the page. -/
def markedReport : PageReport where
  key := phyControl.key
  entry := some markedPhyControl
  savable := false
  descriptorCount := 3
  fields := [phyReport tiedIdentifier 1 0x0B, phyReport tiedIdentifier 2 0x0C]

theorem reported_cutPhyPage :
    (Session.effect (markedEditor.readPage MemoryDevice.device phyControl.key) cutPhyDevice).result =
      .ok markedReport := by
  decide +kernel

/-- The identifier does not apply to the phy with the id 1, and `markedReport` lists it for the one
with the id 2. -/
theorem tied_identifier_reported :
    untiedIdentifier.descriptorId = none ∧ tiedIdentifier.descriptorId = some 2 ∧
      lastId? identifierDetails = some 0x12 ∧ lastSharing? identifierDetails ≠ some false ∧
      tiedIdentifier.flags.clashOk = true ∧
      markedLayout.idOf? 0 = some 1 ∧ markedLayout.applies tiedIdentifier 0 = false ∧
      (Session.effect (markedEditor.readPage MemoryDevice.device phyControl.key)
        cutPhyDevice).result = .ok markedReport ∧
      ¬ markedReport.Lists tiedIdentifier 0 ∧ markedReport.Lists tiedIdentifier 1 := by
  have shared : lastSharing? identifierDetails ≠ some false := by decide
  obtain ⟨-, told⟩ := Editor.ids_tell_apart untiedIdentifier identifierDetails 2 (.inl rfl) rfl
  obtain ⟨clash, apart, reports⟩ := told shared
  obtain ⟨images, current, plan, planned, lists⟩ :=
    reports markedEditor MemoryDevice.device phyControl.key cutPhyDevice markedReport reported_cutPhyPage
  obtain ⟨rfl, rfl, rfl⟩ := planned_cutPhyPage.unique planned
  refine ⟨rfl, rfl, rfl, shared, clash, rfl, apart markedLayout 0 1 rfl (by decide),
    reported_cutPhyPage, fun listed => ?_, (lists 1).2 ?_⟩
  · obtain ⟨same, -⟩ := (lists 0).1 listed
    exact absurd (same 1 rfl) (by decide)
  · refine ⟨fun carried found => ?_, by decide +kernel, by decide, 13, by decide, by decide⟩
    exact (Option.some.inj found).symm

/-- **Where an id does not tell fields apart.** The page has a phy with another id, in which
`tiedIdentifier` means nothing; the last phy ends before its id, and the field is reported of it,
though `idOf?` gives none there. Hints that are given after the id say anew whether the field shares
its place. -/
theorem cut_phy_reported :
    (tiedIdentifier.descriptorId = some 2 ∧ tiedIdentifier.flags.clashOk = true) ∧
      (markedDescriptors.layout cutPhyPage).value = .ok markedLayout ∧
      (markedLayout.idOf? 0 = some 1 ∧ markedLayout.idOf? 2 = none) ∧
      (Session.effect (markedEditor.readPage MemoryDevice.device phyControl.key)
        cutPhyDevice).result = .ok markedReport ∧
      markedReport.Lists tiedIdentifier 2 ∧
      let hinted := tiedIdentifier.withDetails [.hints hex]
      hinted.descriptorId = some 2 ∧ hinted.flags.clashOk = false ∧
        markedLayout.applies hinted 0 = true := by
  refine ⟨⟨rfl, rfl⟩, by decide +kernel, ⟨rfl, rfl⟩, reported_cutPhyPage, ?_, rfl, rfl, by decide⟩
  exact ⟨phyReport tiedIdentifier 2 0x0C, by simp [markedReport], rfl, rfl⟩

end Sample

end ModeParameters
