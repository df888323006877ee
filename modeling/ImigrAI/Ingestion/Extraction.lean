import ImigrAI.Ingestion.Extractors
import ImigrAI.Ingestion.Pipeline

/-!
# The two extractors

`DeterministicExtractor.extract` and `LLMFallbackExtractor.extract`, with the payload that each
of them builds. How the content of a source is turned into text is a parameter, and what the
provider answers is an argument.
-/

namespace ImigrAI.Ingestion

open Python ImmigrationRules Binary64

inductive SourceType where
  | html
  | pdf
  | api
deriving DecidableEq

/-- The columns of a source that only the extraction reads. -/
structure SourceDetails where
  countryName : String
  programCode : String
  programName : String
  sourceType : SourceType
  sourceUrl : String
  parserName : String

structure FetchResult where
  content : List UInt8
  contentType : Option String
  title : String

/-- `_to_text`, which decodes HTML, JSON or PDF and may raise. -/
class ContentText where
  toText : SourceType → List UInt8 → Option String → Option String

/-- The lengths that the fields of `NormalizedProgramPayload` allow. -/
def WithinBounds (payload : NormalizedProgramPayload) : Prop :=
  payload.countryCode.length = 2 ∧
  (2 ≤ payload.countryName.length ∧ payload.countryName.length ≤ 120) ∧
  (2 ≤ payload.programCode.length ∧ payload.programCode.length ≤ 64) ∧
  (2 ≤ payload.programName.length ∧ payload.programName.length ≤ 160) ∧
  (1 ≤ payload.sourceTitle.length ∧ payload.sourceTitle.length ≤ 255) ∧
  (1 ≤ payload.parserUsed.length ∧ payload.parserUsed.length ≤ 64) ∧
  1 ≤ payload.ruleGroups.length

instance (payload : NormalizedProgramPayload) : Decidable (WithinBounds payload) :=
  inferInstanceAs (Decidable (_ ∧ _ ∧ _ ∧ _ ∧ _ ∧ _ ∧ _))

section Construction

variable [UnicodeData]

/-- `NormalizedProgramPayload(...)` on values of the types of its fields. -/
def construct (payload : NormalizedProgramPayload) : Option NormalizedProgramPayload :=
  if WithinBounds payload then
    some { payload with
      countryCode := normalizeCountryCode payload.countryCode
      programCode := normalizeProgramCode payload.programCode }
  else none

theorem construct_eq_some {payload constructed : NormalizedProgramPayload}
    (done : construct payload = some constructed) :
    constructed.parserMode = payload.parserMode ∧
      constructed.confidenceScore = payload.confidenceScore ∧
      constructed.manualReviewRequired = payload.manualReviewRequired := by
  rw [construct] at done
  split_ifs at done
  cases done
  exact ⟨rfl, rfl, rfl⟩

end Construction

/-- The first characters of a text. -/
def truncated (length : ℕ) (text : String) : String := String.ofList (text.toList.take length)

/-- `re.split(r"\n{2,}", text)`: the part at hand and the newlines after it, both reversed. -/
def splitParagraphsFrom : List Char → ℕ → List Char → List (List Char)
  | part, newlines, [] =>
      if 2 ≤ newlines then [part.reverse, []]
      else [part.reverse ++ List.replicate newlines '\n']
  | part, newlines, char :: rest =>
      if char = '\n' then splitParagraphsFrom part (newlines + 1) rest
      else if 2 ≤ newlines then part.reverse :: splitParagraphsFrom [char] 0 rest
      else splitParagraphsFrom (char :: (List.replicate newlines '\n' ++ part)) 0 rest

def splitParagraphs (text : String) : List String :=
  (splitParagraphsFrom [] 0 text.toList).map String.ofList

example : splitParagraphs "a\nb\n\n\nc" = ["a\nb", "c"] := by decide

section Sections

variable [UnicodeData]

def sectionKey (index : ℕ) : String :=
  let digits := Nat.toDigits 10 index
  String.ofList ("sec_".toList ++ List.replicate (3 - digits.length) '0' ++ digits)

def toSection (index : ℕ) (chunk : String) : JsonObject :=
  let heading := truncated 120 ((Text.split '\n' chunk).headD "")
  objectJson [("section_key", textJson (sectionKey index)),
    ("heading", optionalTextJson (if heading = "" then none else some heading)),
    ("section_order", intJson index), ("text_content", textJson (truncated 8000 chunk)),
    ("metadata_json", (objectJson [] (by simp)).toJson)] (by simp)

/-- The chunks of `_to_sections`. -/
def chunks (text : String) : List String :=
  let parts := ((splitParagraphs text).map Text.strip).filter (· ≠ "")
  if parts ≠ [] then parts else [Text.strip text].filter (· ≠ "")

/-- `_to_sections`, with `max_sections`. -/
def toSections (maxSections : ℕ) (text : String) : List JsonObject :=
  ((chunks text).take maxSections).mapIdx fun index chunk => toSection (index + 1) chunk

/-- The summary: the start of the first section, or of the text. -/
def summaryText (text : String) : String :=
  truncated 500 (match chunks text with
    | [] => text
    | first :: _ => truncated 8000 first)

end Sections

/-- The float `min(0.95, 0.55 + (0.1 * signals))`. -/
def confidenceValue (signals : ℕ) : ℚ :=
  min (nearest (19 / 20)) (nearest (nearest (11 / 20) + nearest (nearest (1 / 10) * signals)))

/-- `Decimal(str(...))` of the float. -/
def confidenceScore (signals : ℕ) : Decimal :=
  let decimal := shortest (confidenceValue signals)
  ⟨false, decimal.1, decimal.2⟩

example : (List.range 4).map confidenceScore = [⟨false, 55, -2⟩, ⟨false, 65, -2⟩, ⟨false, 75, -2⟩,
    ⟨false, 8500000000000001, -16⟩] := by
  decide +kernel

structure ExtractResult where
  payload : NormalizedProgramPayload
  textContent : String

section Extraction

variable [UnicodeData] [ContentText]

/-- `DeterministicExtractor.extract`; `none` stands for an exception. -/
def extractDeterministic (maxSections : ℕ) (source : Pipeline.Source) (details : SourceDetails)
    (fetched : FetchResult) (extractedAt : Datetime) : Option ExtractResult := do
  let text ← ContentText.toText details.sourceType fetched.content fetched.contentType
  let (groups, signals) ← (buildRuleGroups source.toSourceRegistry text).toOption
  let confidence := confidenceScore signals
  let payload ← construct {
    countryCode := source.countryCode
    countryName := details.countryName
    programCode := details.programCode
    programName := details.programName
    sourceUrl := details.sourceUrl
    sourceTitle := fetched.title
    extractedAt := extractedAt
    parserUsed := details.parserName
    parserMode := .deterministic
    confidenceScore := confidence
    manualReviewRequired := decide (confidence.toRat < source.confidenceThreshold.toRat)
    summaryText := summaryText text
    metadataJson := objectJson [("signals_detected", intJson signals),
      ("source_key", textJson source.sourceKey)] (by simp)
    sections := toSections maxSections text
    ruleGroups := groups }
  some ⟨payload, text⟩

theorem extractDeterministic_eq_some {maxSections : ℕ} {source : Pipeline.Source}
    {details : SourceDetails} {fetched : FetchResult} {extractedAt : Datetime}
    {result : ExtractResult}
    (done : extractDeterministic maxSections source details fetched extractedAt = some result) :
    result.payload.parserMode = .deterministic ∧
      result.payload.manualReviewRequired =
        decide (result.payload.confidenceScore.toRat < source.confidenceThreshold.toRat) := by
  rcases Option.bind_eq_some_iff.mp done with ⟨text, -, done⟩
  rcases Option.bind_eq_some_iff.mp done with ⟨⟨groups, signals⟩, -, done⟩
  rcases Option.bind_eq_some_iff.mp done with ⟨payload, constructed, same⟩
  cases same
  rcases construct_eq_some constructed with ⟨mode, confidence, review⟩
  exact ⟨mode, by rw [review, confidence]⟩

end Extraction

section Fallback

variable [UnicodeData]

def localStub (source : Pipeline.Source) (details : SourceDetails) (textContent title : String)
    (extractedAt : Datetime) : Option NormalizedProgramPayload :=
  construct {
    countryCode := source.countryCode
    countryName := details.countryName
    programCode := details.programCode
    programName := details.programName
    sourceUrl := details.sourceUrl
    sourceTitle := title
    extractedAt := extractedAt
    parserUsed := "llm-fallback-stub"
    parserMode := .llmFallback
    confidenceScore := ⟨false, 55, -2⟩
    manualReviewRequired := true
    summaryText := truncated 500 textContent
    metadataJson := objectJson [("reason", textJson "deterministic confidence below threshold")]
      (by simp)
    sections := []
    ruleGroups := [{
      code := "manual_review_gate"
      name := "Manual Review Gate"
      description := "LLM fallback could not safely infer deterministic rule set."
      priority := 999
      matchOperator := .all
      conditions := [⟨"escolaridade_rank", .gte, intJson 0, 1, true⟩]
      outcomes := [⟨⟨false, 0, 0⟩, false, "Manual review required before publication.",
        some "MANUAL_REVIEW"⟩] }] }

/-- `loaded.setdefault(key, value)`. -/
def setDefault (key : String) (value : Raw) (loaded : List (String × Raw)) : List (String × Raw) :=
  if key ∈ loaded.map Prod.fst then loaded else loaded ++ [(key, value)]

/-- The defaults of `_extract_with_provider`, a decimal as its text. -/
def withDefaults (source : Pipeline.Source) (details : SourceDetails) (title : String)
    (extractedAt : Datetime) (loaded : List (String × Raw)) : List (String × Raw) :=
  [("country_code", .json (textJson source.countryCode)),
    ("country_name", .json (textJson details.countryName)),
    ("program_code", .json (textJson details.programCode)),
    ("program_name", .json (textJson details.programName)),
    ("source_url", .json (textJson details.sourceUrl)),
    ("source_title", .json (textJson title)),
    ("sections", .json (listJson [])),
    ("metadata_json", .json (objectJson [("llm_provider", textJson "openai")] (by simp)).toJson),
    ("parser_used", .json (textJson "openai-fallback")),
    ("parser_mode", .json (textJson ParserMode.llmFallback.value)),
    ("extracted_at", .datetime extractedAt),
    ("confidence_score", .json (textJson "0.60")),
    ("manual_review_required", .json (boolJson true))].foldl
      (fun loaded default => setDefault default.1 default.2 loaded) loaded

/-- The fields of a loaded dictionary. -/
def rawFields (loaded : JsonObject) : List (String × Raw) :=
  loaded.entries.filterMap fun entry =>
    (loaded.get? entry.1).map fun json => (entry.1, Raw.json json)

variable [Pydantic]

/-- `_extract_with_provider`, with what `json.loads` makes of the model's answer: `none` without
a key or when the call raises. Whatever raises leads to the stub. -/
def extractWithProvider (source : Pipeline.Source) (details : SourceDetails)
    (textContent title : String) (extractedAt : Datetime) (answer : Option Json) :
    Option NormalizedProgramPayload :=
  match answer.bind Json.object? with
  | some loaded =>
      match modelValidate (withDefaults source details title extractedAt (rawFields loaded)) with
      | .ok payload => some payload
      | .error _ => localStub source details textContent title extractedAt
  | none => localStub source details textContent title extractedAt

/-- `LLMFallbackExtractor.extract`. -/
def extractFallback (source : Pipeline.Source) (details : SourceDetails)
    (textContent title : String) (extractedAt : Datetime) (answer : Option Json) :
    Option NormalizedProgramPayload :=
  (extractWithProvider source details textContent title extractedAt answer).map fun payload =>
    { payload with
      parserMode := .llmFallback
      manualReviewRequired := true
      confidenceScore := ⟨false, 60, -2⟩ }

/-- Whatever the model answers, the payload asks for a manual review. -/
theorem extractFallback_eq_some {source : Pipeline.Source} {details : SourceDetails}
    {textContent title : String} {extractedAt : Datetime} {answer : Option Json}
    {payload : NormalizedProgramPayload}
    (done : extractFallback source details textContent title extractedAt answer = some payload) :
    payload.parserMode = .llmFallback ∧ payload.manualReviewRequired = true := by
  rcases Option.map_eq_some_iff.mp done with ⟨provided, -, rfl⟩
  exact ⟨rfl, rfl⟩

end Fallback

end ImigrAI.Ingestion
