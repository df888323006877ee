import ImigrAI.Ingestion.HtmlText
import ImigrAI.Python.JsonTexts

/-!
# The bodies of API sources

The fetcher stores the answer of an API as its JSON value written anew: with sorted keys, ASCII
escapes and an indentation of two. The extractor writes the value in the same way, so it leaves
what the fetcher stored as it is.
-/

namespace ImigrAI.Ingestion

open Python

/-- `bytes.decode("utf-8")`. -/
def decodeUtf8 (bytes : List UInt8) : Option String := String.fromUTF8? ⟨bytes.toArray⟩

/-- `text.encode("utf-8")`. -/
def encodeUtf8 (text : String) : List UInt8 := text.toUTF8.data.toList

/-- Why a body is not normalised: `RuntimeError`, or a lone surrogate, which the values here do
not have. -/
inductive BodyError where
  | invalidJson
  | loneSurrogate
deriving DecidableEq

/-- `json.loads(body.decode("utf-8"))`. -/
def bodyValue (body : List UInt8) : Except BodyError Value :=
  match decodeUtf8 body with
  | none => .error .invalidJson
  | some text =>
      match loads text.toList with
      | .error .valueError => .error .invalidJson
      | .error .loneSurrogate => .error .loneSurrogate
      | .ok value => .ok value

/-- `content_type or "application/json"`. -/
def jsonContentType (contentType : Option String) : String :=
  if contentType.getD "" = "" then "application/json" else contentType.getD ""

/-- `_normalize_api_payload`. -/
def normalizeApiPayload (body : List UInt8) (contentType : Option String) :
    Except BodyError (List UInt8 × String) := do
  let parsed ← bodyValue body
  .ok (encodeUtf8 parsed.dumpsIndented, jsonContentType contentType)

/-- `_extract_json_text`; what `errors="ignore"` keeps of other bytes is a parameter. -/
def extractJsonText (ignoring : List UInt8 → String) (content : List UInt8) :
    Except BodyError String :=
  match bodyValue content with
  | .ok payload => .ok (truncated 100000 payload.dumpsIndented)
  | .error .invalidJson => .ok (truncated 100000 (ignoring content))
  | .error .loneSurrogate => .error .loneSurrogate

@[simp]
theorem decodeUtf8_encodeUtf8 (text : String) : decodeUtf8 (encodeUtf8 text) = some text := by
  have bytes : (⟨(encodeUtf8 text).toArray⟩ : ByteArray) = text.toByteArray := by
    simp [encodeUtf8]
  rw [decodeUtf8, bytes, String.fromUTF8?, dif_pos text.isValidUTF8]
  rfl

theorem encodeUtf8_injective : Function.Injective encodeUtf8 := by
  intro left right same
  have decoded := congrArg decodeUtf8 same
  simpa using decoded

theorem bodyValue_encodeUtf8 {text : String} {value : Value}
    (loaded : loads text.toList = .ok value) : bodyValue (encodeUtf8 text) = .ok value := by
  simp only [bodyValue, decodeUtf8_encodeUtf8, loaded]

theorem loadable_of_bodyValue {body : List UInt8} {value : Value}
    (read : bodyValue body = .ok value) : value.Loadable := by
  unfold bodyValue at read
  split at read
  · cases read
  · split at read
    · cases read
    · cases read
    · rename_i loaded
      cases read
      exact Value.loadable_of_loads loaded

/-- The bytes that a value is stored as are read as the value with its keys sorted. -/
theorem bodyValue_dumpsIndented {value : Value} (loadable : value.Loadable) :
    bodyValue (encodeUtf8 value.dumpsIndented) = .ok value.sortKeys :=
  bodyValue_encodeUtf8 ((Value.loads_renderings loadable).2.2)

theorem dumpsIndented_sortKeys (value : Value) :
    value.sortKeys.dumpsIndented = value.dumpsIndented := by
  rw [Value.dumpsIndented, Value.dumpsIndented, Value.sortKeys_sortKeys]

/-- The indented text determines the value up to the order of its keys. -/
theorem dumpsIndented_eq_iff {left right : Value} (leftLoadable : left.Loadable)
    (rightLoadable : right.Loadable) :
    left.dumpsIndented = right.dumpsIndented ↔ left.sortKeys = right.sortKeys := by
  constructor
  · intro same
    have read := bodyValue_dumpsIndented leftLoadable
    rw [same, bodyValue_dumpsIndented rightLoadable] at read
    exact (Except.ok.inj read).symm
  · intro same
    rw [← dumpsIndented_sortKeys, same, dumpsIndented_sortKeys]

theorem normalizeApiPayload_eq_ok_iff {body content : List UInt8} {contentType : Option String}
    {type : String} :
    normalizeApiPayload body contentType = .ok (content, type) ↔
      ∃ value, bodyValue body = .ok value ∧ content = encodeUtf8 value.dumpsIndented ∧
        type = jsonContentType contentType := by
  rw [normalizeApiPayload, Fallible.bind_eq_ok_iff]
  constructor
  · rintro ⟨value, read, same⟩
    cases same
    exact ⟨value, read, rfl, rfl⟩
  · rintro ⟨value, read, rfl, rfl⟩
    exact ⟨value, read, rfl⟩

/-- A body that was normalised holds the value of the answer with its keys sorted, and is left as
it is by another fetch. Two answers are stored as the same bytes exactly when they have the same
value up to the order of the keys, where an integer differs from the equal float. The text of the
answer that is stored is that of the answer. -/
theorem normalizeApiPayload_canonical {body content : List UInt8} {contentType : Option String}
    {type : String} (normalized : normalizeApiPayload body contentType = .ok (content, type))
    (ignoring : List UInt8 → String) :
    ∃ value, bodyValue body = .ok value ∧ bodyValue content = .ok value.sortKeys ∧
      (∀ otherType, normalizeApiPayload content otherType =
        .ok (content, jsonContentType otherType)) ∧
      (∀ other otherContent otherType given,
        normalizeApiPayload other given = .ok (otherContent, otherType) →
          (otherContent = content ↔
            (bodyValue other).map Value.sortKeys = .ok value.sortKeys)) ∧
      (∃ text, decodeUtf8 content = some text ∧
        extractJsonText ignoring content = .ok (truncated 100000 text) ∧
        extractJsonText ignoring body = .ok (truncated 100000 text)) := by
  rcases normalizeApiPayload_eq_ok_iff.mp normalized with ⟨value, read, rfl, rfl⟩
  have loadable := loadable_of_bodyValue read
  have reread := bodyValue_dumpsIndented loadable
  refine ⟨value, read, reread, ?_, ?_, ?_⟩
  · intro otherType
    rw [normalizeApiPayload, reread, Fallible.ok_bind, dumpsIndented_sortKeys]
  · intro other otherContent otherType given otherNormalized
    rcases normalizeApiPayload_eq_ok_iff.mp otherNormalized with ⟨otherValue, otherRead, rfl, rfl⟩
    rw [otherRead, encodeUtf8_injective.eq_iff,
      dumpsIndented_eq_iff (loadable_of_bodyValue otherRead) loadable]
    simp [Except.map]
  · refine ⟨value.dumpsIndented, decodeUtf8_encodeUtf8 _, ?_, ?_⟩
    · simp only [extractJsonText, reread, dumpsIndented_sortKeys]
    · simp only [extractJsonText, read]

def sampleApiBody : List UInt8 := encodeUtf8 (String.ofList Value.sampleText)

theorem normalize_sampleApiBody : normalizeApiPayload sampleApiBody none =
    .ok (encodeUtf8 Value.sampleValue.dumpsIndented, "application/json") := by
  have read : bodyValue sampleApiBody = .ok Value.sampleValue :=
    bodyValue_encodeUtf8 (by rw [String.toList_ofList]; exact Value.loads_sampleText)
  rw [normalizeApiPayload, read]
  rfl

theorem normalizeApiPayload_canonical_sample :
    ∃ value, bodyValue sampleApiBody = .ok value ∧
      bodyValue (encodeUtf8 Value.sampleValue.dumpsIndented) = .ok value.sortKeys := by
  rcases normalizeApiPayload_canonical normalize_sampleApiBody (fun _ => "") with
    ⟨value, read, reread, -⟩
  exact ⟨value, read, reread⟩

end ImigrAI.Ingestion
