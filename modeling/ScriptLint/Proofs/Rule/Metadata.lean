import ScriptLint.Proofs.Fault
import ScriptLint.Rule.Listed

/-!
# Acceptable metadata

Metadata is checked for its domain, its confidence, its scope and its code, in this order, and a
list of rules is checked from the first to the last. `Acceptable` and `FirstDefect` say what the
checks come to without the order of the program. `validate_eq_error_iff` says which rule a refused
list is refused for: the first that is not acceptable, and for the first check that it fails.
-/

namespace ScriptLint

namespace Metadata

/-- The metadata passes every check for a rule that is to be evaluated on `scope`. -/
structure Acceptable (scope : String) (m : Metadata) : Prop where
  /-- The rule is concerned with something that rules may be concerned with. -/
  domain : m.domain ∈ domains
  /-- Its findings are as sure as those of rules may be. -/
  confidence : m.confidence ∈ confidences
  /-- The rule says that it is to be evaluated on `scope`. -/
  scope : m.scope = scope
  /-- Its code begins as the codes of rules do. -/
  code : codePrefix <+: m.code.toList

/-- The check that metadata fails while it passes those before. -/
inductive FirstDefect (scope : String) (m : Metadata) : RuleDefect → Prop where
  | domain (h : m.domain ∉ domains) : FirstDefect scope m (.domain m.domain)
  | confidence (hdomain : m.domain ∈ domains) (h : m.confidence ∉ confidences) :
      FirstDefect scope m (.confidence m.confidence)
  | scope (hdomain : m.domain ∈ domains) (hconfidence : m.confidence ∈ confidences)
      (h : m.scope ≠ scope) : FirstDefect scope m (.scope m.scope scope)
  | code (hdomain : m.domain ∈ domains) (hconfidence : m.confidence ∈ confidences)
      (hscope : m.scope = scope) (h : ¬ codePrefix <+: m.code.toList) :
      FirstDefect scope m (.code m.code)

variable {scope : String} {m : Metadata}

/-- Metadata that is not acceptable fails some check first. -/
theorem acceptable_or_firstDefect (scope : String) (m : Metadata) :
    m.Acceptable scope ∨ ∃ defect, FirstDefect scope m defect := by
  by_cases hdomain : m.domain ∈ domains
  · by_cases hconfidence : m.confidence ∈ confidences
    · by_cases hscope : m.scope = scope
      · by_cases hcode : codePrefix <+: m.code.toList
        · exact Or.inl ⟨hdomain, hconfidence, hscope, hcode⟩
        · exact Or.inr ⟨_, .code hdomain hconfidence hscope hcode⟩
      · exact Or.inr ⟨_, .scope hdomain hconfidence hscope⟩
    · exact Or.inr ⟨_, .confidence hdomain hconfidence⟩
  · exact Or.inr ⟨_, .domain hdomain⟩

/-- Acceptable metadata has no defect. -/
theorem Acceptable.defect?_eq_none (h : m.Acceptable scope) : m.defect? scope = none := by
  rw [defect?, if_neg (not_not_intro h.domain), if_neg (not_not_intro h.confidence),
    if_neg (not_not_intro h.scope), if_pos (List.isPrefixOf_iff_prefix.mpr h.code)]

/-- The first check that metadata fails is its defect. -/
theorem FirstDefect.defect?_eq_some {defect : RuleDefect} (h : FirstDefect scope m defect) :
    m.defect? scope = some defect := by
  cases h with
  | domain h => rw [defect?, if_pos h]
  | confidence hdomain h => rw [defect?, if_neg (not_not_intro hdomain), if_pos h]
  | scope hdomain hconfidence h =>
    rw [defect?, if_neg (not_not_intro hdomain), if_neg (not_not_intro hconfidence), if_pos h]
  | code hdomain hconfidence hscope h =>
    rw [defect?, if_neg (not_not_intro hdomain), if_neg (not_not_intro hconfidence),
      if_neg (not_not_intro hscope), if_neg (mt List.isPrefixOf_iff_prefix.mp h)]

/-- Metadata has no defect exactly when it is acceptable. -/
theorem defect?_eq_none_iff : m.defect? scope = none ↔ m.Acceptable scope := by
  refine ⟨fun hnone => ?_, Acceptable.defect?_eq_none⟩
  obtain haccepted | ⟨defect, hdefect⟩ := acceptable_or_firstDefect scope m
  · exact haccepted
  · rw [hdefect.defect?_eq_some] at hnone
    cases hnone

/-- The defect of metadata is the first check that it fails. -/
theorem defect?_eq_some_iff {defect : RuleDefect} :
    m.defect? scope = some defect ↔ FirstDefect scope m defect := by
  refine ⟨fun hsome => ?_, FirstDefect.defect?_eq_some⟩
  obtain haccepted | ⟨first, hfirst⟩ := acceptable_or_firstDefect scope m
  · rw [haccepted.defect?_eq_none] at hsome
    cases hsome
  · rw [hfirst.defect?_eq_some] at hsome
    cases hsome
    exact hfirst

/-- Checking a list ends in the first defect on the way. -/
theorem fault?_validate (scope : String) (ms : List Metadata) :
    fault? (validate scope ms) =
      ms.findSome? fun m => (m.defect? scope).map (Fault.invalidRule m.name) := by
  induction ms with
  | nil => rfl
  | cons m rest ih =>
    rw [validate, List.findSome?_cons]
    split
    · next defect hdefect => rw [hdefect, Option.map_some, fault?_error]
    · next hdefect =>
      rw [hdefect, Option.map_none]
      exact ih

/-- The metadata in a list that is refused: the first that is not acceptable, by the name of its
rule, with the first check that it fails. -/
def FirstRejected (scope : String) (ms : List Metadata) (name : String) (defect : RuleDefect) :
    Prop :=
  ∃ accepted m rest, ms = accepted ++ m :: rest ∧ (∀ a ∈ accepted, a.Acceptable scope) ∧
    FirstDefect scope m defect ∧ name = m.name

/-- A list is accepted exactly when all in it is acceptable. -/
theorem validate_eq_ok_iff {ms : List Metadata} :
    validate scope ms = .ok () ↔ ∀ m ∈ ms, m.Acceptable scope := by
  have hok : validate scope ms = .ok () ↔ fault? (validate scope ms) = none := by
    rw [fault?_eq_none_iff]
    exact ⟨fun h => ⟨(), h⟩, fun ⟨_, h⟩ => h⟩
  rw [hok, fault?_validate, List.findSome?_eq_none_iff]
  simp only [Option.map_eq_none_iff, defect?_eq_none_iff]

/-- A list is refused exactly for the first defect in it. -/
theorem validate_eq_error_iff {ms : List Metadata} {fault : Fault} :
    validate scope ms = .error fault ↔
      ∃ name defect, FirstRejected scope ms name defect ∧ fault = .invalidRule name defect := by
  rw [← fault?_eq_some_iff, fault?_validate, List.findSome?_eq_some_iff]
  constructor
  · rintro ⟨accepted, m, rest, rfl, hfault, haccepted⟩
    obtain ⟨defect, hdefect, rfl⟩ := Option.map_eq_some_iff.mp hfault
    refine ⟨m.name, defect, ⟨accepted, m, rest, rfl, ?_, defect?_eq_some_iff.mp hdefect, rfl⟩, rfl⟩
    intro a ha
    exact defect?_eq_none_iff.mp (Option.map_eq_none_iff.mp (haccepted a ha))
  · rintro ⟨name, defect, ⟨accepted, m, rest, rfl, haccepted, hdefect, rfl⟩, rfl⟩
    refine ⟨accepted, m, rest, rfl, ?_, ?_⟩
    · rw [defect?_eq_some_iff.mpr hdefect, Option.map_some]
    · intro a ha
      rw [defect?_eq_none_iff.mpr (haccepted a ha), Option.map_none]

end Metadata

/-! ## The metadata that rules have -/

/-- Every rule for lines has acceptable metadata. -/
theorem LineRule.metadata_acceptable (rule : LineRule) : rule.metadata.Acceptable "line" where
  domain := by cases rule <;> simp [metadata, domain, Metadata.domains]
  confidence := by cases rule <;> simp [metadata, confidence, Metadata.confidences]
  scope := rfl
  code := by cases rule <;> decide

/-- Every rule for documents has acceptable metadata. -/
theorem DocumentRule.metadata_acceptable (rule : DocumentRule) :
    rule.metadata.Acceptable "document" where
  domain := by simp [metadata, Metadata.domains]
  confidence := by simp [metadata, Metadata.confidences]
  scope := rfl
  code := by cases rule <;> decide

namespace ListedRule

/-- The usual rules for lines are accepted. -/
theorem validate_defaultLine : validate "line" defaultLine = .ok () := by
  rw [validate, Metadata.validate_eq_ok_iff, defaultLine, List.map_map]
  intro m hm
  obtain ⟨rule, -, rfl⟩ := List.mem_map.mp hm
  exact rule.metadata_acceptable

/-- The usual rules for documents are accepted. -/
theorem validate_defaultDocument : validate "document" defaultDocument = .ok () := by
  rw [validate, Metadata.validate_eq_ok_iff, defaultDocument, List.map_map]
  intro m hm
  obtain ⟨rule, -, rfl⟩ := List.mem_map.mp hm
  exact rule.metadata_acceptable

end ListedRule

end ScriptLint
