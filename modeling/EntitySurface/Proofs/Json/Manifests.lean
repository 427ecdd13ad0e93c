import EntitySurface.Emission.Manifest
import EntitySurface.Proofs.Digest.Uuid
import EntitySurface.Proofs.Json.Forms

/-!
# Manifests and surfaces read back

Everything that a manifest or a list of surfaces is made of has a lawful form. The two are nested
to a fixed depth, well within what the reader takes, so that their texts are read back as well.
-/

namespace EntitySurface

namespace JsonForm

/-! ## Operations and pages -/

instance : LawfulForm Uuid where
  height := 0
  plain uuid := .string uuid.text
  ne_null := nofun
  readJson?_toJson _ uuid := (Option.bind_some _ _).trans uuid.parse?_text

instance : LawfulForm ArgumentKind where
  height := 3
  plain kind := by
    cases kind <;> exact .object (by simp (disch := decide) [plain_toJson, Json.Plain.string])
  ne_null kind := by cases kind <;> nofun
  readJson?_toJson source kind := by
    cases kind <;>
      simp +instances [instJsonFormArgumentKind, Json.tagged?_withTag,
        Json.fields?_object]

instance : LawfulForm Argument where
  height := 4
  plain argument := .object (by simp (disch := decide) [plain_toJson])
  ne_null := nofun
  readJson?_toJson source argument := by simp +instances [instJsonFormArgument, Json.fields?_object]

instance : LawfulForm Operation where
  height := 6
  plain operation := .object (by simp (disch := decide) [plain_toJson, plain_toJson_option])
  ne_null := nofun
  readJson?_toJson source operation := by
    simp +instances [instJsonFormOperation, Json.fields?_object]

instance : LawfulForm Page where
  height := 6
  plain page := .object (by simp (disch := decide) [plain_toJson])
  ne_null := nofun
  readJson?_toJson source page := by simp +instances [instJsonFormPage, Json.fields?_object]

instance : LawfulForm MenuEntry where
  height := 2
  plain entry := .object (by simp (disch := decide) [plain_toJson])
  ne_null := nofun
  readJson?_toJson source entry := by simp +instances [instJsonFormMenuEntry, Json.fields?_object]

instance : LawfulForm ActionGroup where
  height := 2
  plain group := .object (by simp (disch := decide) [plain_toJson])
  ne_null := nofun
  readJson?_toJson source group := by simp +instances [instJsonFormActionGroup, Json.fields?_object]

instance : LawfulForm GroupSet where
  height := 4
  plain set := .object (by simp (disch := decide) [plain_toJson])
  ne_null := nofun
  readJson?_toJson source set := by simp +instances [instJsonFormGroupSet, Json.fields?_object]

/-! ## Search plans and surfaces -/

instance : LawfulForm PlannedWidget where
  height := 4
  plain widget := .object (by simp (disch := decide) [plain_toJson])
  ne_null := nofun
  readJson?_toJson source widget := by
    simp +instances [instJsonFormPlannedWidget, Json.fields?_object]

instance : LawfulForm SearchOrdering where
  height := 1
  plain ordering := .object (by simp (disch := decide) [plain_toJson])
  ne_null := nofun
  readJson?_toJson source ordering := by
    simp +instances [instJsonFormSearchOrdering, Json.fields?_object]

instance : LawfulForm SearchPlan where
  height := 6
  plain plan := .object (by simp (disch := decide) [plain_toJson, plain_toJson_option])
  ne_null := nofun
  readJson?_toJson source plan := by simp +instances [instJsonFormSearchPlan, Json.fields?_object]

instance : LawfulForm Surface where
  height := 8
  plain surface := .object (by simp (disch := decide) [plain_toJson, plain_toJson_option])
  ne_null := nofun
  readJson?_toJson source surface := by simp +instances [instJsonFormSurface, Json.fields?_object]

/-! ## Woven methods and manifests -/

instance : LawfulForm HookStatement where
  height := 3
  plain statement := by
    cases statement <;>
      exact .object (by simp (disch := decide) [plain_toJson, Json.Plain.string])
  ne_null statement := by cases statement <;> nofun
  readJson?_toJson source statement := by
    cases statement <;>
      simp +instances [instJsonFormHookStatement, Json.tagged?_withTag,
        Json.fields?_object]

instance : LawfulForm WovenMethod where
  height := 5
  plain woven := .object (by simp (disch := decide) [plain_toJson])
  ne_null := nofun
  readJson?_toJson source woven := by simp +instances [instJsonFormWovenMethod, Json.fields?_object]

instance : LawfulForm ManifestEntity where
  height := 8
  plain entity := .object (by simp (disch := decide) [plain_toJson, plain_toJson_option])
  ne_null := nofun
  readJson?_toJson source entity := by
    simp +instances [instJsonFormManifestEntity, Json.fields?_object]

instance : LawfulForm Manifest where
  height := 10
  plain manifest := .object (by simp (disch := decide) [plain_toJson])
  ne_null := nofun
  readJson?_toJson source manifest := by simp +instances [instJsonFormManifest, Json.fields?_object]

/-! ## Texts -/

variable {α : Type} [JsonForm α] [LawfulForm α]

/-- A value whose form is not nested too deeply is read from its text. -/
theorem read_pretty (shallow : LawfulForm.height α ≤ Json.maxDepth) (value : α) :
    (Json.parse? (toJson value).pretty).bind (readJson? .text) = some value := by
  rw [(plain_toJson value shallow).parse?_pretty le_rfl, Option.bind_some,
    LawfulForm.readJson?_toJson]

/-- Two values whose forms are not nested too deeply have different texts. -/
theorem pretty_injective (shallow : LawfulForm.height α ≤ Json.maxDepth) :
    Function.Injective fun value : α => (toJson value).pretty := by
  intro first second same
  have read : (Json.parse? (toJson first).pretty).bind (readJson? .text) =
      (Json.parse? (toJson second).pretty).bind (readJson? (α := α) .text) :=
    congrArg (fun text => (Json.parse? text).bind (readJson? .text)) same
  rwa [read_pretty shallow, read_pretty shallow, Option.some.injEq] at read

end JsonForm

open JsonForm

/-- Every manifest and every list of surfaces is read from its text. Hence different manifests have
different texts, and so do different lists of surfaces. -/
theorem manifests_and_surfaces_read_back :
    (∀ manifest : Manifest, Manifest.parse? manifest.text = some manifest) ∧
      (∀ surfaces : List Surface,
        (Json.parse? (toJson surfaces).pretty).bind (readJson? .text) = some surfaces) ∧
      Function.Injective Manifest.text ∧
      Function.Injective fun surfaces : List Surface => (toJson surfaces).pretty := by
  have manifestFits : LawfulForm.height Manifest ≤ Json.maxDepth := by decide
  have surfacesFit : LawfulForm.height (List Surface) ≤ Json.maxDepth := by decide
  refine ⟨fun manifest => ?_, fun surfaces => ?_, ?_, ?_⟩
  · exact read_pretty manifestFits manifest
  · exact read_pretty surfacesFit surfaces
  · exact pretty_injective manifestFits
  · exact pretty_injective surfacesFit

end EntitySurface
