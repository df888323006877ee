import ImigrAI.Python.Datetime
import ImigrAI.Python.Decimal
import ImigrAI.Python.Uuid

/-!
# Rows of the ingestion

The sources that are collected, and what a publication stores beside the rules: the document
it came from and what was extracted from it.
-/

namespace ImigrAI.Ingestion

open Python

inductive ParserMode where
  | deterministic
  | llmFallback
deriving DecidableEq

def ParserMode.value : ParserMode → String
  | .deterministic => "deterministic"
  | .llmFallback => "llm_fallback"

/-- The columns that extraction and publication read. -/
structure SourceRegistry where
  id : UUID
  sourceKey : String
  countryCode : String
  parserVersion : String

structure SourceDocument where
  id : UUID
  sourceId : Option UUID
  ingestionRunItemId : Option UUID
  programVersionId : Option UUID
  title : String
  sourceUrl : String
  checksumSha256 : Option String
  rawStorageUri : Option String
  publishedAt : Option Instant

structure SourceExtraction where
  id : UUID
  sourceDocumentId : UUID
  extractionVersion : String
  extractedText : Option String
  confidenceScore : Option Decimal
  parserUsed : Option String
  parserMode : ParserMode
  manualReviewRequired : Bool
  semanticHashSha256 : Option String

end ImigrAI.Ingestion
