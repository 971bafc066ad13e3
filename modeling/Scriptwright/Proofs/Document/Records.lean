import Scriptwright.Proofs.Document.ReadBack
import Scriptwright.Request
import Scriptwright.Result
import Scriptwright.Validation.Validator

/-!
Requests, results and validations written as values and read again: each fits the place of its
shape, and its reader undoes its writer, also for the fields that were left out.
-/
namespace Scriptwright

open Document

variable {levels : Nat}

theorem Language.ofValue?_toValue (l : Language) : ofValue? l.toValue = some l := ofTag?_tag l

theorem LanguagePreference.ofValue?_tag (p : LanguagePreference) :
    ofValue? (.string p.tag) = some p := ofTag?_tag p

theorem IntegrationKind.ofValue?_toValue (k : IntegrationKind) : ofValue? k.toValue = some k :=
  ofTag?_tag k

theorem Complexity.ofValue?_toValue (c : Complexity) : ofValue? c.toValue = some c := ofTag?_tag c

namespace Signature

theorem fits (s : Signature) : Fits (levels + 2) shape s.toValue :=
  .record (by decide)
    (.kept (fits_text _) (.kept (fits_text _) (.kept (fits_text _) (.kept (fits_text _) .nil))))

theorem ofValue?_toValue (s : Signature) : ofValue? s.toValue = some s := by
  simp [ofValue?, toValue, Value.required, Value.field?, Entries.get?_cons, Value.asString?]

end Signature

namespace Requirements

theorem fits (r : Requirements) : Fits (levels + 3) shape r.toValue :=
  .record (by decide)
    (.kept (fits_strings _) (.kept (fits_strings _) (.kept (fits_strings _)
      (.kept (fits_strings _) (.kept (fits_truth _) (.kept (fits_truth _) (.kept (fits_truth _)
        (.kept (fits_truth _) (.kept (fits_truth _) (.kept (fits_truth _) .nil))))))))))

theorem ofValue?_toValue (r : Requirements) : ofValue? r.toValue = some r := by
  simp [ofValue?, toValue, Value.required, Value.field?, Entries.get?_cons,
    Value.asStrings?_strings, Value.asBool?]

end Requirements

namespace Metadata

theorem fits (m : Metadata) : Fits (levels + 4) shape m.toValue :=
  .record (by decide)
    (.kept (fits_text _) (.kept (fits_text _) (.kept m.requirements.fits (.kept (fits_choice _)
      (.kept (fits_strings _) (.kept (fits_strings _) (.kept (fits_strings _)
        (.kept m.signature.fits .nil))))))))

theorem ofValue?_toValue (m : Metadata) : ofValue? m.toValue = some m := by
  simp [ofValue?, toValue, Value.required, Value.field?, Entries.get?_cons, Value.asString?,
    Value.asStrings?_strings, Requirements.ofValue?_toValue, Complexity.ofValue?_toValue,
    Signature.ofValue?_toValue]

end Metadata

namespace CompanionFile

theorem fits (f : CompanionFile) : Fits (levels + 3) shape f.toValue := by
  obtain ⟨kind, filename, content, path, executable⟩ := f
  cases executable with
  | false =>
    exact .record (by decide)
      (.kept (fits_text _) (.kept (fits_text _) (.kept (fits_text _) (.kept (fits_text _) .nil))))
  | true =>
    exact .record (by decide)
      (.kept (fits_text _) (.kept (fits_text _) (.kept (fits_text _) (.kept (fits_text _)
        (.kept (fits_truth _).defaulted .nil)))))

theorem ofValue?_toValue (f : CompanionFile) : ofValue? f.toValue = some f := by
  obtain ⟨kind, filename, content, path, executable⟩ := f
  cases executable <;>
    simp [ofValue?, toValue, Value.required, Value.withDefault, Value.field?, Entries.get?_cons,
      Entries.get?_nil, Value.asString?, Value.asBool?]

end CompanionFile

namespace GenerationResult

theorem fits (r : GenerationResult) : Fits (levels + 6) shape r.toValue := by
  obtain ⟨success, code, language, metadata, errors, warnings, suggestions, companions⟩ := r
  cases companions with
  | nil =>
    exact .record (by decide)
      (.kept (fits_truth _) (.kept (fits_text _) (.kept (fits_choice _) (.kept metadata.fits
        (.kept (fits_strings _) (.kept (fits_strings _) (.kept (fits_strings _) .nil)))))))
  | cons f fs =>
    exact .record (by decide)
      (.kept (fits_truth _) (.kept (fits_text _) (.kept (fits_choice _) (.kept metadata.fits
        (.kept (fits_strings _) (.kept (fits_strings _) (.kept (fits_strings _)
          (.kept (ReadAs.list fun f _ => f.fits).defaulted .nil))))))))

theorem ofValue?_toValue (r : GenerationResult) : ofValue? r.toValue = some r := by
  obtain ⟨success, code, language, metadata, errors, warnings, suggestions, companions⟩ := r
  have hcompanions := @Value.asList?_map _ _ _ companions fun f _ => f.ofValue?_toValue
  cases companions <;>
    simp [ofValue?, toValue, Value.required, Value.withDefault, Value.field?, Entries.get?_cons,
      Entries.get?_nil, Value.asBool?, Value.asString?, Value.asStrings?_strings,
      Language.ofValue?_toValue, Metadata.ofValue?_toValue, hcompanions, -List.map_cons]

end GenerationResult

namespace ValidationResult

theorem fits (r : ValidationResult) : Fits (levels + 4) shape r.toValue := by
  obtain ⟨isValid, syntaxErrors, securityWarnings, recommendations, notices⟩ := r
  cases notices with
  | nil =>
    exact .record (by decide)
      (.kept (fits_truth _) (.kept (fits_strings _) (.kept (fits_strings _)
        (.kept (fits_strings _) .nil))))
  | cons notice notices =>
    exact .record (by decide)
      (.kept (fits_truth _) (.kept (fits_strings _) (.kept (fits_strings _)
        (.kept (fits_strings _) (.kept (fits_strings _).defaulted .nil)))))

theorem ofValue?_toValue (r : ValidationResult) : ofValue? r.toValue = some r := by
  obtain ⟨isValid, syntaxErrors, securityWarnings, recommendations, notices⟩ := r
  cases notices <;>
    simp [ofValue?, toValue, Value.required, Value.withDefault, Value.field?, Entries.get?_cons,
      Entries.get?_nil, Value.asBool?, Value.asStrings?_strings]

end ValidationResult

namespace Integration

/-- No key stands twice in the settings, at any depth. -/
def IsKeyed (i : Integration) : Prop := ∀ config, i.config = some config → (Value.object config).IsKeyed

theorem fits {i : Integration} (h : i.IsKeyed) : Fits (levels + 4) shape i.toValue := by
  obtain ⟨kind, enabled, config⟩ := i
  cases config with
  | none =>
    exact .record (by decide) (.kept (fits_choice _) (.kept (fits_truth _).defaulted .nil))
  | some config =>
    have hconfig : Fits (levels + 2) (.optional .entries) (.object config) :=
      (fits_entries (h config rfl)).optional Value.noConfusion
    exact .record (by decide)
      (.kept (fits_choice _) (.kept (fits_truth _).defaulted (.kept hconfig.defaulted .nil)))

theorem ofValue?_toValue (i : Integration) : ofValue? i.toValue = some i := by
  obtain ⟨kind, enabled, config⟩ := i
  cases config <;>
    simp [ofValue?, toValue, Value.required, Value.optional, Value.withDefault, Value.field?,
      Entries.ofOption, Entries.get?_cons, Entries.get?_nil, Value.asBool?, Value.asEntries?,
      IntegrationKind.ofValue?_toValue]

end Integration

namespace GenerationRequest

/-- No key stands twice in the overrides or in the settings of an integration, at any depth. -/
structure IsKeyed (r : GenerationRequest) : Prop where
  overrides : (Value.object r.templateOverrides).IsKeyed
  integrations : ∀ i ∈ r.integrations, i.IsKeyed

theorem fits {r : GenerationRequest} (h : r.IsKeyed) : Fits (levels + 7) shape r.toValue := by
  obtain ⟨description, language, integrations, tests, documentation, overrides⟩ := r
  have hbehind : FieldsRead (levels + 6)
      [("integrations", .defaulted (.list Integration.shape)),
        ("includeTests", .defaulted .truth), ("includeDocumentation", .defaulted .truth),
        ("templateOverrides", .defaulted .entries)]
      [("integrations", .array (integrations.map (·.toValue))), ("includeTests", .bool tests),
        ("includeDocumentation", .bool documentation), ("templateOverrides", .object overrides)]
      [("integrations", .array (integrations.map (·.toValue))), ("includeTests", .bool tests),
        ("includeDocumentation", .bool documentation), ("templateOverrides", .object overrides)] :=
    .kept (ReadAs.list fun i hi => Integration.fits (h.integrations i hi)).defaulted
      (.kept (fits_truth _).defaulted (.kept (fits_truth _).defaulted
        (.kept (fits_entries h.overrides).defaulted .nil)))
  cases language with
  | none => exact .record (by decide) (.kept (fits_text _) (.omitted hbehind))
  | some p =>
    have hlanguage : Fits (levels + 3) (.optional .choice) p.toValue :=
      (fits_choice _).optional Value.noConfusion
    exact .record (by decide) (.kept (fits_text _) (.kept hlanguage.defaulted hbehind))

theorem ofValue?_toValue (r : GenerationRequest) : ofValue? r.toValue = some r := by
  obtain ⟨description, language, integrations, tests, documentation, overrides⟩ := r
  have hintegrations := @Value.asList?_map _ _ _ integrations fun i _ => i.ofValue?_toValue
  cases language <;>
    simp [ofValue?, toValue, Value.required, Value.optional, Value.withDefault, Value.field?,
      Entries.ofOption, Entries.get?_cons, Entries.get?_nil, Value.asString?, Value.asBool?,
      Value.asEntries?, LanguagePreference.toValue, LanguagePreference.ofValue?_tag,
      hintegrations]

end GenerationRequest

/-- Requests, results and validations are read back as they were written, whichever of their fields
the writer left out. -/
theorem records_read_back (request : GenerationRequest) (result : GenerationResult)
    (validation : ValidationResult) (h : request.IsKeyed) :
    decode? GenerationRequest.shape GenerationRequest.ofValue? request.toValue = some request ∧
      decode? GenerationResult.shape GenerationResult.ofValue? result.toValue = some result ∧
      decode? ValidationResult.shape ValidationResult.ofValue? validation.toValue =
        some validation := by
  have hrequest : Fits 16 GenerationRequest.shape request.toValue := GenerationRequest.fits h
  have hresult : Fits 16 GenerationResult.shape result.toValue := result.fits
  have hvalidation : Fits 16 ValidationResult.shape validation.toValue := validation.fits
  rw [decode?_of_readAs hrequest, decode?_of_readAs hresult, decode?_of_readAs hvalidation]
  exact ⟨request.ofValue?_toValue, result.ofValue?_toValue, validation.ofValue?_toValue⟩

/-- Settings and overrides of all kinds; the language and one setting are absent. -/
def backupRequest : GenerationRequest where
  description := "Back up my photos"
  integrations := [{ kind := .nemo, config := some [("name", .string "Back up"), ("icon", .null)] },
    { kind := .kdeConnect, enabled := false }]
  templateOverrides := [("limits", .object [("files", .nat 3), ("parts", .array [.float 0.5])]),
    ("parts", .array [])]

/-- A result with one file that is not to be run, and nothing else in its lists. -/
def backupResult : GenerationResult where
  success := true
  code := "echo hi\n"
  language := .bash
  metadata :=
    { templateUsed := "bash_basic"
      generatedAt := ""
      requirements := {}
      estimatedComplexity := .simple
      dependencies := []
      permissions := []
      platform := ["linux"]
      signature := .current }
  errors := []
  warnings := []
  suggestions := []
  companions := [⟨"documentation", "backup.md", "# Backup\n", "backup.md", false⟩]

theorem backup_reads_back :
    backupRequest.IsKeyed ∧
      decode? GenerationRequest.shape GenerationRequest.ofValue? backupRequest.toValue =
        some backupRequest ∧
      decode? GenerationResult.shape GenerationResult.ofValue? backupResult.toValue =
        some backupResult ∧
      decode? ValidationResult.shape ValidationResult.ofValue? ValidationResult.skipped.toValue =
        some ValidationResult.skipped := by
  have hkeyed : backupRequest.IsKeyed := by
    constructor
    · simp [backupRequest, Value.IsKeyed, Value.EntriesKeyed, Value.ItemsKeyed, Entries.keys,
        Value.nat, Value.float]
    · simp [backupRequest, Integration.IsKeyed, Value.IsKeyed, Value.EntriesKeyed, Entries.keys]
  exact ⟨hkeyed, records_read_back backupRequest backupResult .skipped hkeyed⟩

end Scriptwright
