import ModeParameters.Proofs.Editor.Tables
import ModeParameters.Proofs.Registry.Isolation

/-! # Isolation of tables

Items and the operations on a device go by the tables of the configured namespace, and in the generic
namespace by the fallback ones as well. They are the same programs with any other registry that agrees
on these tables: they come to the same, issue the same commands and make the same remarks, whatever
the tables of other transports and vendors hold. -/

namespace ModeParameters

/-- Work that goes on from a remarked value depends on `x.value` alone, not on the remarks. -/
theorem Attempt.liftLogged_bind_congr {ε α β : Type} {x : Logged α} {f g : α → Attempt ε β}
    (h : f x.value = g x.value) :
    (liftM x >>= f : Attempt ε β) = liftM x >>= g := by
  have run (f : α → Attempt ε β) :
      (liftM x >>= f : Attempt ε β).run = x >>= fun a => (f a).run := ExceptT.run_bind_lift x f
  refine ExceptT.ext (Logged.ext ?_ ?_) <;> simp [run, h]

/-! ## Items -/

namespace LookupContext

variable {context : LookupContext} {registry' : Registry}

/-- The same surroundings with another registry. -/
def withRegistry (context : LookupContext) (registry' : Registry) : LookupContext :=
  { context with registry := registry' }

variable (agree : context.registry.AgreesFor context.space registry')
include agree

theorem fieldAtSpan_withRegistry (page : PageKey) (span : BitSpan) :
    (context.withRegistry registry').fieldAtSpan page span = context.fieldAtSpan page span := by
  simp only [fieldAtSpan, withRegistry, agree.own]

theorem fieldOf_withRegistry (page : Option PageKey) (item : Item) :
    (context.withRegistry registry').fieldOf page item = context.fieldOf page item := by
  unfold fieldOf
  cases item.name with
  | acronym acronym index =>
    simp only [candidates, withRegistry, agree.fieldsNamed_eq]
    rfl
  | coordinates span => simp only [fieldAtSpan_withRegistry agree]

theorem bindAll_withRegistry (page : Option PageKey) (items : List Item) :
    (context.withRegistry registry').bindAll page items = context.bindAll page items := by
  induction items generalizing page with
  | nil => rfl
  | cons item rest ih => simp only [bindAll, bind, fieldOf_withRegistry agree, ih]

/-- **Items are matched alike** with registries that agree: `resolve` is the same. -/
theorem resolve_withRegistry (items : List Item) (page : Option PageKey) :
    (context.withRegistry registry').resolve items page = context.resolve items page := by
  simp only [resolve, bindAll_withRegistry agree]

end LookupContext

/-! ## Operations -/

namespace Editor

variable {editor : Editor} {registry' : Registry}

/-- The same editor with another registry. -/
def withRegistry (editor : Editor) (registry' : Registry) : Editor :=
  { editor with registry := registry' }

/-- A fetch goes by the configuration and not by any table, so that `ReadsAlike` holds. -/
theorem readsAlike_withRegistry (editor : Editor) (registry' : Registry) :
    ReadsAlike editor (editor.withRegistry registry') := ⟨rfl, rfl, rfl⟩

/-- The entry of a page is in the tables of `config.space`, or in the fallback ones if that is
`.generic`. -/
theorem space_pageEntry (editor : Editor) (key : PageKey) :
    (editor.pageEntry key).value.2 = editor.config.space ∨
      editor.config.space = .generic ∧ (editor.pageEntry key).value.2 = .fallback := by
  unfold pageEntry
  dsimp only
  rw [Logged.value_bind]
  split
  · exact .inl rfl
  · by_cases generic : editor.config.space = .generic
    · rw [if_neg (not_not.2 generic), Logged.value_bind]
      split
      · exact .inr ⟨generic, rfl⟩
      · exact .inl rfl
    · rw [if_pos generic]
      exact .inl rfl

/-- An edit goes by the tables through its `change` alone. -/
theorem edit_withRegistry (editor : Editor) (registry' : Registry) {σ : Type} (device : Device σ)
    (key : PageKey) (wanted : List PageControl)
    (change : PageImages → PageImage → Attempt Error PageImage) :
    (editor.withRegistry registry').edit device key wanted change =
      editor.edit device key wanted change :=
  (readsAlike_withRegistry editor registry').edit_eq rfl rfl device key wanted change

/-- Two editors work alike: they match items with the tables alike, and each operation is the same
program for both, with the same result, the same commands and the same remarks on every device. -/
structure WorksAlike (editor editor' : Editor) : Prop where
  /-- Items name the same fields, or fail for the same reason. -/
  resolve : ∀ items page, editor'.lookup.resolve items page = editor.lookup.resolve items page
  /-- Pages are fetched alike. -/
  fetch : ∀ {σ : Type} (device : Device σ) (key : PageKey) (wanted : List PageControl),
    editor'.fetch device key wanted = editor.fetch device key wanted
  /-- Pages are reported alike. -/
  readPage : ∀ {σ : Type} (device : Device σ) (key : PageKey),
    editor'.readPage device key = editor.readPage device key
  /-- Fields are reported alike. -/
  readFields : ∀ {σ : Type} (device : Device σ) (request : Request),
    editor'.readFields device request = editor.readFields device request
  /-- Fields are set alike. -/
  writeFields : ∀ {σ : Type} (device : Device σ) (request : Request),
    editor'.writeFields device request = editor.writeFields device request
  /-- Pages are set to their default values alike. -/
  restoreDefaults : ∀ {σ : Type} (device : Device σ) (key : PageKey),
    editor'.restoreDefaults device key = editor.restoreDefaults device key

section Agreeing

variable (agree : editor.registry.AgreesFor editor.config.space registry')
include agree

theorem pageEntry_withRegistry (key : PageKey) :
    (editor.withRegistry registry').pageEntry key = editor.pageEntry key := by
  unfold pageEntry
  simp only [withRegistry, agree.findPage_eq]
  by_cases generic : editor.config.space = .generic
  · simp only [(agree.after_fallback generic).findPage_eq]
  · simp only [ne_eq, generic, not_false_eq_true, if_true]

/-- Both have the same table where `pageEntry` finds the entry of a page. -/
theorem table_pageEntry_withRegistry (key : PageKey) :
    registry'.table (editor.pageEntry key).value.2 =
      editor.registry.table (editor.pageEntry key).value.2 := by
  rcases space_pageEntry editor key with own | ⟨generic, fallen⟩
  · rw [own, agree.own]
  · rw [fallen, agree.fallback generic]

theorem reportPage_withRegistry (key : PageKey) (images : PageImages) (current : PageImage) :
    (editor.withRegistry registry').reportPage key images current =
      editor.reportPage key images current := by
  unfold reportPage
  rw [pageEntry_withRegistry agree]
  refine Attempt.liftLogged_bind_congr ?_
  have fields : ((editor.withRegistry registry').registry.table (editor.pageEntry key).value.2) =
      editor.registry.table (editor.pageEntry key).value.2 := table_pageEntry_withRegistry agree key
  dsimp only
  rw [fields]
  rfl

theorem reportRequest_withRegistry (request : Request) (images : PageImages) (current : PageImage) :
    (editor.withRegistry registry').reportRequest request images current =
      editor.reportRequest request images current := by
  simp only [reportRequest, pageEntry_withRegistry agree]
  rfl

theorem applyRequest_withRegistry (request : Request) (images : PageImages) (current : PageImage) :
    (editor.withRegistry registry').applyRequest request images current =
      editor.applyRequest request images current := by
  simp only [applyRequest, pageEntry_withRegistry agree]
  rfl

/-- **An editor works alike** with a `registry'` that agrees with its own, as `AgreesFor` says of
the namespace. -/
theorem worksAlike_withRegistry : editor.WorksAlike (editor.withRegistry registry') where
  resolve items page := by
    have agree' : editor.lookup.registry.AgreesFor editor.lookup.space registry' := agree
    exact LookupContext.resolve_withRegistry agree' items page
  fetch device key wanted := (readsAlike_withRegistry editor registry').fetch_eq device key wanted
  readPage device key := by
    simp only [Editor.readPage, (readsAlike_withRegistry editor registry').fetch_eq,
      reportPage_withRegistry agree]
  readFields device request := by
    simp only [Editor.readFields, (readsAlike_withRegistry editor registry').fetch_eq,
      reportRequest_withRegistry agree]
    rfl
  writeFields device request := by
    have change : (editor.withRegistry registry').applyRequest request =
        editor.applyRequest request := by
      funext images current
      exact applyRequest_withRegistry agree request images current
    rw [Editor.writeFields, edit_withRegistry, change]
    rfl
  restoreDefaults device key := edit_withRegistry editor registry' device key _ _

end Agreeing

/-- **Tables are isolated.** An editor `WorksAlike` with any registry that has the same table for
its namespace and, if that is `.generic`, the same fallback table; so do the searches for an
acronym, from every cursor that searches within the namespace come to (`Reaches`). Within the
namespace of a transport or a vendor these find fields of this namespace alone. -/
theorem tables_isolated (editor : Editor) (registry' : Registry)
    (agree : editor.registry.AgreesFor editor.config.space registry') :
    editor.WorksAlike (editor.withRegistry registry') ∧
      ∀ cursor, editor.registry.Reaches editor.config.space cursor → ∀ acronym,
        registry'.findField acronym editor.config.space cursor =
          editor.registry.findField acronym editor.config.space cursor ∧
        ∀ found, (editor.registry.findField acronym editor.config.space cursor).value = some found →
          editor.config.space ≠ .generic →
            found.space = editor.config.space ∧
              found.field ∈ (editor.registry.table editor.config.space).fields := by
  refine ⟨worksAlike_withRegistry agree, fun cursor reached acronym => ?_⟩
  refine ⟨agree.findField_eq reached.staysIn acronym, fun found h explicit => ?_⟩
  exact Registry.space_of_reaches explicit reached h

end Editor

/-! ## Tables that would lead astray -/

namespace Sample

open ModeParameters.Field (named)

/-- An editor for the pages of serial attached SCSI. -/
def sasEditor : Editor := ⟨registry, { size := .six, space := .transport .sas }, none⟩

/-- A field of the generic tables with the acronym "EPHID" of the identifier of an enhanced phy, but
elsewhere. -/
def strayField : Field := named "EPHID" enhancedPhyControl.key ⟨10, 7, 8⟩ "Something else"

/-- The tables of serial attached SCSI beside generic ones that describe the same page otherwise,
with `strayField`. -/
def strayRegistry : Registry :=
  ({ generic := { pages := [plainPhyPage], fields := [strayField] } } : Registry).withTransport .sas
    sasTable

/-- What the tables of serial attached SCSI have for the identifier; the search goes on behind it,
at 16. -/
def identifierMatch : FieldMatch := ⟨identifierField, .transport .sas, ⟨16, false⟩⟩

/-- **A stray generic table is not seen** within the namespace of serial attached SCSI: the item
names the same field with `strayRegistry`, though the generic namespace would now give another
one. -/
theorem stray_tables_isolated :
    sasEditor.registry.AgreesFor sasEditor.config.space strayRegistry ∧
      (sasEditor.lookup.resolve [typedIdentifier] none).value = .ok identifierRequest ∧
      ((sasEditor.withRegistry strayRegistry).lookup.resolve [typedIdentifier] none).value =
        .ok identifierRequest ∧
      ((sasEditor.withRegistry strayRegistry).readFields MemoryDevice.device identifierRequest :
        Session MemoryDevice _) = sasEditor.readFields MemoryDevice.device identifierRequest ∧
      (strayRegistry.findField "ephid" (.transport .sas) .start).value = some identifierMatch ∧
      identifierField ∈ (registry.table (.transport .sas)).fields ∧
      (strayRegistry.findField "ephid" .generic .start).value.map FieldMatch.field =
        some strayField := by
  have agree : sasEditor.registry.AgreesFor sasEditor.config.space strayRegistry :=
    ⟨by decide, nofun⟩
  obtain ⟨alike, searches⟩ := Editor.tables_isolated sasEditor strayRegistry agree
  obtain ⟨same, within⟩ := searches .start .start "ephid"
  have found : (registry.findField "ephid" (.transport .sas) .start).value = some identifierMatch := by
    decide
  have meant : (sasEditor.lookup.fieldOf none typedIdentifier).value = .ok identifierField := by
    rw [LookupContext.fieldOf_acronym_eq_ok_iff rfl]
    decide
  have made := resolve_identifier meant
  refine ⟨agree, made, ?_, alike.readFields _ _, ?_, (within _ found (by decide)).2, by decide⟩
  · rw [alike.resolve]
    exact made
  · exact (congrArg Logged.value same).trans found

/-- A cursor in the fallback table that is handed to another namespace, here `.vendor .seagate`,
goes on in the fallback table. -/
example : (registry.findField "PHID" (.vendor .seagate) ⟨0, true⟩).value.map FieldMatch.space =
    some .fallback := by decide

end Sample

end ModeParameters
