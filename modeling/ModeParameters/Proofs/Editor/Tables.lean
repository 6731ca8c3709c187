import ModeParameters.Proofs.Editor.PageReports
import ModeParameters.Proofs.Item.Resolution
import ModeParameters.Proofs.Registry.Pages

/-! # Which tables an editor goes by

An item finds its field in one table, and the editor finds the entry of the page in one table. Both
look among the generic tables first and then in the fallback one, but an acronym falls back when no
generic field has it and a page when no generic entry is for it, so the two can come to different
tables. They come to the same one when the tables of the field describe the page and no generic
entry stands before them; then nothing that the editor does with the page depends on any other
table. -/

namespace ModeParameters

namespace Editor

variable {editor : Editor} {key : PageKey} {space : Namespace}

/-- The tables that items for an editor are matched with, those of `config.space` first. -/
def lookup (editor : Editor) : LookupContext := ⟨editor.registry, editor.config.space, editor.type⟩

/-- The editor that has the tables of `space` and no others. -/
def onlyIn (editor : Editor) (space : Namespace) : Editor :=
  { editor with registry := editor.registry.only space, config := { editor.config with space } }

/-! ## The entry of a page -/

/-- An entry that `findPage` finds in the namespace of the editor is taken from there. -/
theorem pageEntry_of_found {entry : PageEntry}
    (h : (editor.registry.findPage key editor.type editor.config.space).value = some entry) :
    (editor.pageEntry key).value = (some entry, editor.config.space) := by
  unfold pageEntry
  dsimp only
  rw [Logged.value_bind, h]
  rfl

/-- A page that is not among the generic tables is looked for in `.fallback`. -/
theorem pageEntry_of_missing {entry : PageEntry} (generic : editor.config.space = .generic)
    (missing : (editor.registry.findPage key editor.type .generic).value = none)
    (h : (editor.registry.findPage key editor.type .fallback).value = some entry) :
    (editor.pageEntry key).value = (some entry, .fallback) := by
  unfold pageEntry
  dsimp only
  rw [generic, Logged.value_bind, missing]
  dsimp only
  rw [if_neg (not_not.2 rfl), Logged.value_bind, h]
  rfl

/-- The generic tables, if `Registry.Describes` holds of them, go before the fallback one. -/
theorem space_of_pageEntry_of_generic (generic : editor.config.space = .generic)
    (described : editor.registry.Describes .generic key editor.type) :
    (editor.pageEntry key).value.2 = .generic := by
  obtain ⟨entry, found⟩ := Option.isSome_iff_exists.1 (Registry.isSome_findPage_iff.2 described)
  rw [pageEntry_of_found (generic ▸ found)]
  exact generic

/-- The first of the generic and the fallback tables of which `Registry.Describes` holds give the
entry of the page. -/
theorem pageEntry_of_describes (generic : editor.config.space = .generic)
    (tried : space = .generic ∨
      space = .fallback ∧ ¬ editor.registry.Describes .generic key editor.type)
    (described : editor.registry.Describes space key editor.type) :
    ∃ entry ∈ (editor.registry.table space).pages, entry.key = key ∧
      (editor.registry.findPage key editor.type space).value = some entry ∧
      (editor.pageEntry key).value = (some entry, space) := by
  obtain ⟨entry, found⟩ := Option.isSome_iff_exists.1 (Registry.isSome_findPage_iff.2 described)
  obtain ⟨mem, same⟩ := Registry.mem_pages_of_findPage found
  refine ⟨entry, mem, same, found, ?_⟩
  rcases tried with rfl | ⟨rfl, missing⟩
  · rw [pageEntry_of_found (generic ▸ found), generic]
  · exact pageEntry_of_missing generic (Registry.findPage_eq_none_iff.2 missing) found

/-- With `onlyIn` the tables of one namespace the same entry is found. -/
theorem pageEntry_onlyIn {entry : PageEntry}
    (h : (editor.registry.findPage key editor.type space).value = some entry) :
    ((editor.onlyIn space).pageEntry key).value = (some entry, space) := by
  have found : ((editor.onlyIn space).registry.findPage key (editor.onlyIn space).type
      (editor.onlyIn space).config.space).value = some entry :=
    (editor.registry.value_findPage_only key editor.type space).trans h
  exact pageEntry_of_found found

/-! ## What the operations use -/

/-- An editor goes by the tables of one namespace for a page: they have the entry that it uses, and
every operation on the page has the effect that it has with `onlyIn`, without all other tables. -/
structure UsesOnly (editor : Editor) (space : Namespace) (key : PageKey) : Prop where
  /-- The entry, and with it the place of the descriptors, is in these tables. -/
  entry : ∃ entry ∈ (editor.registry.table space).pages, entry.key = key ∧
    (editor.pageEntry key).value = (some entry, space)
  /-- The fields of the page are those of these tables. -/
  fields : editor.fieldsOf key = (editor.registry.table space).fieldsOf key editor.type
  /-- Fields are reported by these tables. -/
  readFields : ∀ {σ : Type} (device : Device σ) (bindings : List Binding) (state : σ),
    Session.effect (editor.readFields device ⟨key, bindings⟩) state =
      Session.effect ((editor.onlyIn space).readFields device ⟨key, bindings⟩) state
  /-- Fields are set by these tables. -/
  writeFields : ∀ {σ : Type} (device : Device σ) (bindings : List Binding) (state : σ),
    Session.effect (editor.writeFields device ⟨key, bindings⟩) state =
      Session.effect ((editor.onlyIn space).writeFields device ⟨key, bindings⟩) state
  /-- The page is reported by these tables. -/
  readPage : ∀ {σ : Type} (device : Device σ) (state : σ),
    Session.effect (editor.readPage device key) state =
      Session.effect ((editor.onlyIn space).readPage device key) state

/-- An editor goes by the tables in which `pageEntry` finds the entry. -/
theorem usesOnly_of_pageEntry {entry : PageEntry}
    (mem : entry ∈ (editor.registry.table space).pages) (same : entry.key = key)
    (found : (editor.registry.findPage key editor.type space).value = some entry)
    (taken : (editor.pageEntry key).value = (some entry, space)) : editor.UsesOnly space key := by
  have alike : ReadsAlike editor (editor.onlyIn space) := ⟨rfl, rfl, rfl⟩
  have entries : (editor.onlyIn space).entryOf key = editor.entryOf key := by
    rw [entryOf, entryOf, taken, pageEntry_onlyIn found]
  have fields : editor.fieldsOf key = (editor.registry.table space).fieldsOf key editor.type := by
    rw [fieldsOf, taken]
  have fields' : (editor.onlyIn space).fieldsOf key = editor.fieldsOf key := by
    rw [fields, fieldsOf, pageEntry_onlyIn found]
    change ((editor.registry.only space).table space).fieldsOf key editor.type = _
    rw [Registry.table_only, if_pos rfl]
  refine ⟨⟨entry, mem, same, taken⟩, fields, fun device bindings state => ?_,
    fun device bindings state => ?_, fun device state => ?_⟩
  · simp only [effect_readFields, alike.fetch_eq, value_reportRequest, entries]
    rfl
  · have changes : (editor.onlyIn space).changeOf key
        ((editor.onlyIn space).applyRequest ⟨key, bindings⟩) =
          editor.changeOf key (editor.applyRequest ⟨key, bindings⟩) := by
      funext images
      simp only [changeOf, value_applyRequest, entries]
      rfl
    simp only [writeFields, (does_edit _ _).effect_eq, alike.fetch_eq, changes]
    rfl
  · simp only [effect_readPage, alike.fetch_eq, value_reportPage, entries, fields']
    rfl

/-- **An editor goes by the tables of one namespace** for a page of which `Registry.Describes` holds
there, unless generic entries stand before them. -/
theorem usesOnly_of_describes (generic : editor.config.space = .generic)
    (tried : space = .generic ∨
      space = .fallback ∧ ¬ editor.registry.Describes .generic key editor.type)
    (described : editor.registry.Describes space key editor.type) : editor.UsesOnly space key := by
  obtain ⟨entry, mem, same, found, taken⟩ := pageEntry_of_describes generic tried described
  exact usesOnly_of_pageEntry mem same found taken

/-- Every report of a page `Lists` a field in each descriptor in which it applies and ends within
the page. -/
def ListsFitting (editor : Editor) (key : PageKey) (field : Field) : Prop :=
  ∀ {σ : Type} (device : Device σ) (state : σ) (report : PageReport),
    (Session.effect (editor.readPage device key) state).result = .ok report →
      ∃ images current plan, editor.Planned device key PageControl.all state images current plan ∧
        ∀ index start, plan.applies field index = true → plan.offsetOf? field index = some start →
          plan.endsBeyond field start = false → report.Lists field index

/-- The fields that the report of a page goes through, those of `fieldsOf`, are listed where they
fit. -/
theorem listsFitting_of_mem {field : Field} (listed : field ∈ editor.fieldsOf key) :
    editor.ListsFitting key field := by
  intro σ device state report reported
  obtain ⟨images, current, plan, fields, planned, made, rfl⟩ := result_readPage_iff.1 reported
  refine ⟨images, current, plan, planned, fun index start applied found within => ?_⟩
  exact PagePlan.exists_mem_reportFields made listed applied found within

/-! ## The tables of an acronym -/

/-- A field that an acronym means on a page is one of the fields of the page in its tables,
`PageTable.fieldsOf`. -/
theorem mem_fieldsOf_of_bind {page : Option PageKey} {item : Item} {binding : Binding}
    {acronym : String} {index : Option Nat} (named : item.name = .acronym acronym index)
    (bound : (editor.lookup.bind page item).value = .ok binding) :
    ∃ found ∈ (editor.registry.fieldsNamed acronym editor.config.space).value,
      found.field = binding.field ∧ binding.field ∈
        (editor.registry.table found.space).fieldsOf binding.field.page editor.type := by
  obtain ⟨field, meant, rfl⟩ := LookupContext.bind_eq_ok_iff.1 bound
  obtain ⟨found, mem, rfl⟩ := LookupContext.exists_match_of_fieldOf named meant
  obtain ⟨-, listed⟩ := Registry.space_of_mem_fieldsNamed mem
  have applies := (LookupContext.answersTo_of_fieldOf named meant).2
  refine ⟨found, mem, rfl, List.mem_filter.2 ⟨listed, ?_⟩⟩
  rw [Bool.and_eq_true]
  exact ⟨beq_self_eq_true _, applies⟩

/-- **Items and the editor agree on the tables.** The fields that an acronym has are all in one
namespace, the generic or the fallback one. When its tables describe the page of the request, and it
is `.generic` or no generic entry stands before them, the editor goes by these tables alone for the
page (`UsesOnly`), and the field of the acronym is listed with the page wherever it applies and ends
within the page. A generic entry for the page is taken before any other. -/
theorem tables_agree (editor : Editor) (generic : editor.config.space = .generic)
    {items : List Item} {page : Option PageKey} {request : Request}
    (made : (editor.lookup.resolve items page).value = .ok request) :
    List.Forall₂ (fun item binding => ∀ acronym index, item.name = .acronym acronym index →
      ∃ found ∈ (editor.registry.fieldsNamed acronym .generic).value, found.field = binding.field ∧
        (∀ other ∈ (editor.registry.fieldsNamed acronym .generic).value,
          other.space = found.space) ∧
        (found.space = .generic ∨ found.space = .fallback) ∧
        (editor.registry.Describes .generic request.page editor.type →
          (editor.pageEntry request.page).value.2 = .generic) ∧
        (editor.registry.Describes found.space request.page editor.type →
          (found.space = .generic ∨ ¬ editor.registry.Describes .generic request.page editor.type) →
          editor.UsesOnly found.space request.page ∧
            editor.ListsFitting request.page binding.field)) items request.bindings := by
  refine (LookupContext.bound_of_resolve made).imp ?_
  rintro item binding ⟨before, bound, same⟩ acronym index named
  obtain ⟨found, mem, field, listed⟩ := mem_fieldsOf_of_bind named bound
  rw [generic] at mem
  obtain ⟨searched, -⟩ := Registry.space_of_mem_fieldsNamed mem
  have spaces : found.space = .generic ∨ found.space = .fallback :=
    searched ▸ editor.registry.searched_generic_cases acronym
  refine ⟨found, mem, field, fun other mem' => ?_, spaces, space_of_pageEntry_of_generic generic,
    fun described first => ?_⟩
  · rw [(Registry.space_of_mem_fieldsNamed mem').1, searched]
  have uses : editor.UsesOnly found.space request.page := by
    refine usesOnly_of_describes generic ?_ described
    rcases spaces with here | there
    · exact .inl here
    · refine .inr ⟨there, first.resolve_left fun here => ?_⟩
      cases here.symm.trans there
  -- the page of the request is that of the field
  have own : binding.field.page = request.page :=
    (LookupContext.binds_of_bind bound).page_eq.trans same
  refine ⟨uses, listsFitting_of_mem ?_⟩
  rw [uses.fields, ← own]
  exact listed

end Editor

/-! ## A page in two tables -/

namespace Sample

/-- The identifier of the second enhanced phy. -/
def typedIdentifier : Item := ⟨"ephid.1", .acronym "ephid" (some 1), none, none⟩

/-- What the item is bound to where the tables of serial attached SCSI are tried. -/
def identifierRequest : Request := ⟨enhancedPhyControl.key, [phyQuery identifierField 1]⟩

/-- An acronym is bound to the field that `fieldOf` gives for it, the first for which the tables
answer. -/
theorem resolve_identifier {editor : Editor}
    (meant : (editor.lookup.fieldOf none typedIdentifier).value = .ok identifierField) :
    (editor.lookup.resolve [typedIdentifier] none).value = .ok identifierRequest :=
  LookupContext.resolve_singleton_eq_ok_iff.2
    ⟨_, LookupContext.bind_eq_ok_iff.2 ⟨_, meant, rfl⟩, rfl⟩

/-- In the sample tables only `.fallback`, those of serial attached SCSI, describe the page, and the
editor goes by them. -/
theorem identifier_tables_agree :
    (sixByteEditor.lookup.resolve [typedIdentifier] none).value = .ok identifierRequest ∧
      registry.Describes .fallback enhancedPhyControl.key none ∧
      ¬ registry.Describes .generic enhancedPhyControl.key none ∧
      sixByteEditor.UsesOnly .fallback enhancedPhyControl.key ∧
      sixByteEditor.ListsFitting enhancedPhyControl.key identifierField := by
  have made : (sixByteEditor.lookup.resolve [typedIdentifier] none).value =
      .ok identifierRequest := by
    refine resolve_identifier ?_
    rw [LookupContext.value_fieldOf_acronym rfl, LookupContext.choose_eq_ok_iff,
      LookupContext.value_candidates]
    decide
  have described : registry.Describes .fallback enhancedPhyControl.key none :=
    Registry.isSome_findPage_iff.1 (by decide)
  have missing : ¬ registry.Describes .generic enhancedPhyControl.key none :=
    Registry.findPage_eq_none_iff.1 (by decide)
  refine ⟨made, described, missing, ?_⟩
  cases Editor.tables_agree sixByteEditor rfl made with
  | cons first _ =>
    obtain ⟨found, mem, -, -, -, -, agree⟩ := first _ _ rfl
    have space : found.space = .fallback := by
      rw [(Registry.space_of_mem_fieldsNamed mem).1]
      decide
    rw [space] at agree
    exact agree described (.inr missing)

/-- A generic entry for the same page, without its descriptors. -/
def plainPhyPage : PageEntry := { enhancedPhyControl with descriptors := none }

/-- Tables in which both namespaces describe the page, and only those of serial attached SCSI have
its fields. -/
def sharedRegistry : Registry :=
  ({ generic := { pages := [plainPhyPage] } } : Registry).withTransport .sas
    { pages := [enhancedPhyControl], fields := enhancedPhyControlFields }

/-- An editor with these tables, `sharedRegistry`. -/
def sharedEditor : Editor := { sixByteEditor with registry := sharedRegistry }

/-- **Both tables can describe a page.** The acronym is found in the fallback table, which describes
the page, but the generic entry is taken for the page: the descriptor that the item names is not
there, though by the fallback table alone it is, and no field is listed with the page. -/
theorem shared_page_disagrees :
    (sharedEditor.lookup.resolve [typedIdentifier] none).value = .ok identifierRequest ∧
      (∃ found ∈ (sharedRegistry.fieldsNamed "ephid" .generic).value,
        found.field = identifierField ∧ found.space = .fallback) ∧
      sharedRegistry.Describes .fallback enhancedPhyControl.key none ∧
      (sharedEditor.pageEntry enhancedPhyControl.key).value = (some plainPhyPage, .generic) ∧
      (Session.effect (sharedEditor.readFields MemoryDevice.device identifierRequest)
        (phyDevice cutDescriptors)).result =
          .error (.item (.descriptorIndexOutOfRange "EPHID.1" enhancedPhyControl.key 1 1)) ∧
      (Session.effect ((sharedEditor.onlyIn .fallback).readFields MemoryDevice.device
        identifierRequest) (phyDevice cutDescriptors)).result =
          .ok [phyReport identifierField 1 0x0A] ∧
      (Session.effect (sharedEditor.readPage MemoryDevice.device enhancedPhyControl.key)
        (phyDevice cutDescriptors)).result =
          .ok ⟨enhancedPhyControl.key, some plainPhyPage, false, 1, []⟩ := by
  have meant : (sharedEditor.lookup.fieldOf none typedIdentifier).value = .ok identifierField := by
    rw [LookupContext.value_fieldOf_acronym rfl, LookupContext.choose_eq_ok_iff,
      LookupContext.value_candidates]
    decide
  have matched : ∃ found ∈ (sharedRegistry.fieldsNamed "ephid" .generic).value,
      found.field = identifierField ∧ found.space = .fallback := by
    obtain ⟨found, mem, field⟩ := LookupContext.exists_match_of_fieldOf rfl meant
    refine ⟨found, mem, field, ?_⟩
    rw [(Registry.space_of_mem_fieldsNamed mem).1]
    decide
  have described : sharedRegistry.Describes .fallback enhancedPhyControl.key none :=
    Registry.isSome_findPage_iff.1 (by decide)
  refine ⟨resolve_identifier meant, matched, described, ?_, ?_, ?_, ?_⟩
  all_goals decide +kernel

end Sample

end ModeParameters
