import ModeParameters.Editor.Change

/-! # What a fetch takes from the configuration

A fetch goes by three settings: the form of the commands, whether block descriptors are left out, and
whether faults of responses are borne. Editors that agree on these fetch alike, whatever else they
were told to do. A write goes by two settings more: whether to save, and whether it is a dry run. -/

namespace ModeParameters.Editor

variable {σ : Type}

/-- Two editors read pages alike: `fetch` is the same for both. -/
structure ReadsAlike (editor editor' : Editor) : Prop where
  /-- They use the same form of the commands. -/
  size_eq : editor'.config.size = editor.config.size
  /-- They both want block descriptors, or neither does. -/
  blocks_eq : editor'.config.withoutBlockDescriptors = editor.config.withoutBlockDescriptors
  /-- They bear the same faults: both are `flexible`, or neither is. -/
  flexible_eq : editor'.config.flexible = editor.config.flexible

namespace ReadsAlike

variable {editor editor' : Editor} (alike : ReadsAlike editor editor')
include alike

theorem senseRequest_eq : editor'.senseRequest = editor.senseRequest := by
  funext key control allocation
  simp only [senseRequest, alike.size_eq, alike.blocks_eq]

theorem senseError_eq : editor'.senseError = editor.senseError := by
  funext key cause
  simp only [senseError, alike.size_eq]

theorem validate_eq : editor'.validate = editor.validate := by
  funext key control response allocation
  simp only [validate, expectedLength, alike.size_eq, alike.flexible_eq]

theorem probe_eq (device : Device σ) (key : PageKey) :
    editor'.probe device key = editor.probe device key := by
  simp only [probe, alike.size_eq, alike.senseRequest_eq, alike.senseError_eq]

theorem readVariants_eq (device : Device σ) (key : PageKey) (allocation : Nat)
    (controls : List PageControl) (images : PageImages) :
    editor'.readVariants device key allocation controls images =
      editor.readVariants device key allocation controls images := by
  induction controls generalizing images with
  | nil => rfl
  | cons control rest ih =>
    simp only [readVariants, alike.senseRequest_eq, alike.senseError_eq, alike.validate_eq, ih]

/-- **Editors that read pages alike fetch alike** (`ReadsAlike`). -/
theorem fetch_eq (device : Device σ) (key : PageKey) (wanted : List PageControl) :
    editor'.fetch device key wanted = editor.fetch device key wanted := by
  simp only [fetch, alike.probe_eq, alike.readVariants_eq]

/-- Editors that read pages alike and write alike `edit` alike. -/
theorem edit_eq (save_eq : editor'.config.save = editor.config.save)
    (dryRun_eq : editor'.config.dryRun = editor.config.dryRun) (device : Device σ) (key : PageKey)
    (wanted : List PageControl) (change : PageImages → PageImage → Attempt Error PageImage) :
    editor'.edit device key wanted change = editor.edit device key wanted change := by
  simp only [edit, commit, selectRequest, alike.fetch_eq, alike.size_eq, save_eq, dryRun_eq]

end ReadsAlike

end ModeParameters.Editor
