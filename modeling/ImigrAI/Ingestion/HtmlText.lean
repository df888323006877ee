import ImigrAI.Ingestion.Extraction

/-!
# The text of an HTML page

`_HTMLTextExtractor` collects the data of a page outside scripts and styles from the events of the
parser. On a page whose elements are closed this is the visible text. No text has a blank line, so
that a page makes up at most one section.
-/

namespace ImigrAI.Ingestion

open Python

inductive HtmlEvent where
  | startTag (tag : String)
  | endTag (tag : String)
  | data (text : String)

structure HtmlTextExtractor where
  parts : List String
  ignoreDepth : ℕ

/-- The tags whose data is ignored. -/
def isIgnored (tag : String) : Bool := tag = "script" || tag = "style"

section Extractor

variable [UnicodeData]

/-- `re.sub(r"\s+", " ", ...)`, with whether a blank came before. -/
def collapseBlanks : Bool → List Char → List Char
  | _, [] => []
  | afterBlank, char :: rest =>
      if UnicodeData.isSpace char then
        if afterBlank then collapseBlanks true rest else ' ' :: collapseBlanks true rest
      else char :: collapseBlanks false rest

/-- The text that `handle_data` makes of data. -/
def normalized (data : String) : String :=
  Text.strip (String.ofList (collapseBlanks false data.toList))

namespace HtmlTextExtractor

def new : HtmlTextExtractor := ⟨[], 0⟩

def handle (parser : HtmlTextExtractor) : HtmlEvent → HtmlTextExtractor
  | .startTag tag =>
      if isIgnored tag then { parser with ignoreDepth := parser.ignoreDepth + 1 } else parser
  | .endTag tag =>
      if isIgnored tag ∧ 0 < parser.ignoreDepth then
        { parser with ignoreDepth := parser.ignoreDepth - 1 }
      else parser
  | .data data =>
      if 0 < parser.ignoreDepth then parser
      else if normalized data = "" then parser
      else { parser with parts := parser.parts ++ [normalized data] }

def feed (parser : HtmlTextExtractor) (events : List HtmlEvent) : HtmlTextExtractor :=
  events.foldl handle parser

/-- `get_text`. -/
def getText (parser : HtmlTextExtractor) : String :=
  String.intercalate "\n" parser.parts

end HtmlTextExtractor

/-- `_extract_html_text` on the events that the parser makes of the content. -/
def extractHtmlText (events : List HtmlEvent) : String :=
  truncated 100000 (HtmlTextExtractor.new.feed events).getText

end Extractor

/-- A page whose elements are closed. Tags without an end are neither scripts nor styles. -/
inductive Html where
  | text (data : String)
  | void (tag : String) (shown : isIgnored tag = false)
  | element (tag : String) (children : List Html)

namespace Html

mutual

/-- The events that the parser makes of a page. -/
def events : Html → List HtmlEvent
  | text data => [.data data]
  | void tag _ => [.startTag tag]
  | element tag children => .startTag tag :: eventsOf children ++ [.endTag tag]

def eventsOf : List Html → List HtmlEvent
  | [] => []
  | child :: children => events child ++ eventsOf children

end

mutual

/-- The data of a page outside scripts and styles. -/
def visible : Html → List String
  | text data => [data]
  | void _ _ => []
  | element tag children => if isIgnored tag then [] else visibleOf children

def visibleOf : List Html → List String
  | [] => []
  | child :: children => visible child ++ visibleOf children

end

end Html

section Pages

variable [UnicodeData]

/-- What is left of some data: the normalised texts that are not empty. -/
def shownParts (data : List String) : List String :=
  (data.map normalized).filter (· ≠ "")

theorem shownParts_append (first second : List String) :
    shownParts (first ++ second) = shownParts first ++ shownParts second := by
  simp [shownParts]

theorem HtmlTextExtractor.feed_append (parser : HtmlTextExtractor)
    (first second : List HtmlEvent) :
    parser.feed (first ++ second) = (parser.feed first).feed second :=
  List.foldl_append

/-- What a page leaves: in a script or a style nothing changes. -/
def shows (parser : HtmlTextExtractor) (data : List String) : HtmlTextExtractor :=
  if parser.ignoreDepth = 0 then { parser with parts := parser.parts ++ shownParts data }
  else parser

@[simp]
theorem ignoreDepth_shows (parser : HtmlTextExtractor) (data : List String) :
    (shows parser data).ignoreDepth = parser.ignoreDepth := by
  rw [shows]
  split_ifs <;> rfl

theorem shows_append (parser : HtmlTextExtractor) (first second : List String) :
    shows parser (first ++ second) = shows (shows parser first) second := by
  by_cases outside : parser.ignoreDepth = 0
  · simp [shows, outside, shownParts_append]
  · simp [shows, outside]

@[simp]
theorem shows_nil (parser : HtmlTextExtractor) : shows parser [] = parser := by
  simp [shows, shownParts]

theorem handle_data (parser : HtmlTextExtractor) (data : String) :
    parser.handle (.data data) = shows parser [data] := by
  obtain ⟨parts, ignoreDepth⟩ := parser
  cases ignoreDepth with
  | zero =>
      by_cases empty : normalized data = ""
      · simp [HtmlTextExtractor.handle, shows, shownParts, empty]
      · simp [HtmlTextExtractor.handle, shows, shownParts, empty]
  | succ depth => simp [HtmlTextExtractor.handle, shows]

mutual

theorem feed_events (parser : HtmlTextExtractor) (page : Html) :
    parser.feed page.events = shows parser page.visible := by
  cases page with
  | text data => exact handle_data parser data
  | void tag shown => simp [Html.events, Html.visible, HtmlTextExtractor.feed,
      HtmlTextExtractor.handle, shown]
  | element tag children =>
      rw [Html.events, HtmlTextExtractor.feed_append, ← List.singleton_append,
        HtmlTextExtractor.feed_append, feed_eventsOf _ children, Html.visible]
      by_cases ignored : isIgnored tag
      · simp [HtmlTextExtractor.feed, HtmlTextExtractor.handle, ignored, shows, shownParts]
      · simp [HtmlTextExtractor.feed, HtmlTextExtractor.handle, ignored]

theorem feed_eventsOf (parser : HtmlTextExtractor) (pages : List Html) :
    parser.feed (Html.eventsOf pages) = shows parser (Html.visibleOf pages) := by
  cases pages with
  | nil => simp [Html.eventsOf, Html.visibleOf, HtmlTextExtractor.feed]
  | cons page pages =>
      rw [Html.eventsOf, Html.visibleOf, HtmlTextExtractor.feed_append, feed_events parser page,
        feed_eventsOf _ pages, shows_append]

end

/-- A part begins with a character that is no blank, and has no newline. -/
structure IsPart (text : List Char) : Prop where
  begins : ∃ first ∈ text.head?, UnicodeData.isSpace first = false
  oneLine : '\n' ∉ text

theorem mem_collapseBlanks {afterBlank : Bool} {text : List Char} {char : Char}
    (mem : char ∈ collapseBlanks afterBlank text) :
    char = ' ' ∨ UnicodeData.isSpace char = false := by
  induction text generalizing afterBlank with
  | nil => simp [collapseBlanks] at mem
  | cons next rest ih =>
      rw [collapseBlanks] at mem
      split_ifs at mem with isBlank _
      · exact ih mem
      · rcases List.mem_cons.mp mem with rfl | later
        · exact Or.inl rfl
        · exact ih later
      · rcases List.mem_cons.mp mem with rfl | later
        · exact Or.inr (by simpa using isBlank)
        · exact ih later

theorem head?_strip (text : String) {first : Char}
    (isFirst : first ∈ (Text.strip text).toList.head?) : UnicodeData.isSpace first = false := by
  rw [Text.strip, String.toList_ofList] at isFirst
  obtain ⟨rest, isRest⟩ := List.rdropWhile_prefix UnicodeData.isSpace
    (text.toList.dropWhile UnicodeData.isSpace)
  have isHead : (text.toList.dropWhile UnicodeData.isSpace).head? = some first := by
    rw [← isRest, List.head?_append, Option.mem_def.mp isFirst, Option.some_or]
  have kept := List.head?_dropWhile_not UnicodeData.isSpace text.toList
  rw [isHead] at kept
  simpa using kept

theorem isPart_normalized (newline : UnicodeData.isSpace '\n') {data : String}
    (shown : normalized data ≠ "") : IsPart (normalized data).toList where
  begins := by
    cases text : (normalized data).toList with
    | nil => exact absurd (String.toList_eq_nil_iff.mp text) shown
    | cons first rest =>
        refine ⟨first, rfl, head?_strip (String.ofList (collapseBlanks false data.toList)) ?_⟩
        rw [← normalized, text]
        rfl
  oneLine := by
    intro mem
    rw [normalized, Text.strip, String.toList_ofList, String.toList_ofList] at mem
    have collapsed : '\n' ∈ collapseBlanks false data.toList :=
      (List.dropWhile_sublist _).subset ((List.rdropWhile_prefix _ _).subset mem)
    rcases mem_collapseBlanks collapsed with isSpace | notBlank
    · exact absurd isSpace (by decide)
    · rw [newline] at notBlank
      cases notBlank

theorem isPart_of_feed (newline : UnicodeData.isSpace '\n') {parser : HtmlTextExtractor}
    (arePartsBefore : ∀ part ∈ parser.parts, IsPart part.toList) (events : List HtmlEvent) :
    ∀ part ∈ (parser.feed events).parts, IsPart part.toList := by
  induction events generalizing parser with
  | nil => exact arePartsBefore
  | cons event events ih =>
      apply ih
      cases event with
      | startTag tag =>
          rw [HtmlTextExtractor.handle]
          split_ifs <;> exact arePartsBefore
      | endTag tag =>
          rw [HtmlTextExtractor.handle]
          split_ifs <;> exact arePartsBefore
      | data data =>
          rw [HtmlTextExtractor.handle]
          split_ifs with ignored empty
          · exact arePartsBefore
          · exact arePartsBefore
          · intro part mem
            rcases List.mem_append.mp mem with earlier | isNew
            · exact arePartsBefore part earlier
            · obtain rfl := List.mem_singleton.mp isNew
              exact isPart_normalized newline empty

/-- No newline follows a newline. -/
def NoBlankLine (text : List Char) : Prop :=
  text.IsChain fun first second => ¬ (first = '\n' ∧ second = '\n')

omit [UnicodeData] in
theorem noBlankLine_of_oneLine {text : List Char} (oneLine : '\n' ∉ text) : NoBlankLine text := by
  apply List.Pairwise.isChain
  apply List.pairwise_of_forall_mem_list
  rintro first isFirst second _ ⟨rfl, _⟩
  exact oneLine isFirst

theorem noBlankLine_intercalate (newline : UnicodeData.isSpace '\n') {parts : List String}
    (areParts : ∀ part ∈ parts, IsPart part.toList) :
    NoBlankLine ("\n".intercalate parts).toList ∧
      ∀ first ∈ ("\n".intercalate parts).toList.head?, UnicodeData.isSpace first = false := by
  induction parts with
  | nil => simp [NoBlankLine]
  | cons part parts ih =>
      rw [List.forall_mem_cons] at areParts
      obtain ⟨isPart, areParts⟩ := areParts
      obtain ⟨first, isFirst, begins⟩ := isPart.begins
      have oneLine := isPart.oneLine
      cases parts with
      | nil =>
          rw [String.intercalate_singleton]
          refine ⟨noBlankLine_of_oneLine oneLine, fun other isOther => ?_⟩
          obtain rfl := Option.mem_unique isFirst isOther
          exact begins
      | cons next parts =>
          obtain ⟨ofRest, restBegins⟩ := ih areParts
          rw [String.intercalate_cons_cons, String.toList_append, String.toList_append]
          have separator : "\n".toList = ['\n'] := by simp
          rw [separator, List.append_assoc, List.singleton_append]
          refine ⟨List.isChain_append.mpr ⟨noBlankLine_of_oneLine oneLine, ?_, ?_⟩, ?_⟩
          · apply ofRest.cons
            rintro second isSecond ⟨_, rfl⟩
            have notBlank := restBegins _ isSecond
            rw [newline] at notBlank
            cases notBlank
          · intro last isLast _ _ both
            exact oneLine (both.1 ▸ List.mem_of_mem_getLast? isLast)
          · intro other isOther
            rw [List.head?_append, Option.mem_def.mp isFirst, Option.some_or] at isOther
            obtain rfl := Option.some.inj isOther
            exact begins

omit [UnicodeData] in
/-- A text without a blank line is one paragraph. -/
theorem splitParagraphsFrom_of_noBlankLine {part : List Char} {newlines : ℕ} {text : List Char}
    (noBlankLine : NoBlankLine (List.replicate newlines '\n' ++ text)) (few : newlines ≤ 1) :
    splitParagraphsFrom part newlines text =
      [part.reverse ++ (List.replicate newlines '\n' ++ text)] := by
  induction text generalizing part newlines with
  | nil =>
      rw [splitParagraphsFrom, if_neg (by omega), List.append_nil]
  | cons char text ih =>
      by_cases newline : char = '\n'
      · subst newline
        have none : newlines = 0 := by
          by_contra some
          obtain rfl : newlines = 1 := by omega
          simp [NoBlankLine] at noBlankLine
        subst none
        rw [splitParagraphsFrom, if_pos rfl, ih (by simpa using noBlankLine) (by omega)]
        rfl
      · have rest : NoBlankLine text := (List.isChain_append.mp noBlankLine).2.1.tail
        rw [splitParagraphsFrom, if_neg newline, if_neg (by omega),
          ih (by simpa using rest) (by omega)]
        simp

omit [UnicodeData] in
theorem NoBlankLine.take {text : List Char} (noBlankLine : NoBlankLine text) (length : ℕ) :
    NoBlankLine (text.take length) := by
  have isSplit := List.take_append_drop length text
  rw [← isSplit] at noBlankLine
  exact (List.isChain_append.mp noBlankLine).1

/-- The text of a page is one chunk at most. -/
theorem chunks_extractHtmlText (newline : UnicodeData.isSpace '\n') (events : List HtmlEvent) :
    chunks (extractHtmlText events) =
      if extractHtmlText events = "" then [] else [Text.strip (extractHtmlText events)] := by
  have areParts : ∀ part ∈ (HtmlTextExtractor.new.feed events).parts, IsPart part.toList :=
    isPart_of_feed newline (by simp [HtmlTextExtractor.new]) events
  obtain ⟨noBlankLine, begins⟩ := noBlankLine_intercalate newline areParts
  generalize isText : extractHtmlText events = text
  have characters : text.toList = (HtmlTextExtractor.new.feed events).getText.toList.take 100000 := by
    rw [← isText, extractHtmlText, truncated, String.toList_ofList]
  have split : splitParagraphsFrom [] 0 text.toList = [text.toList] := by
    rw [characters]
    apply splitParagraphsFrom_of_noBlankLine
    · exact noBlankLine.take 100000
    · omega
  have paragraphs : splitParagraphs text = [text] := by
    rw [splitParagraphs, split, List.map_singleton, String.ofList_toList]
  by_cases empty : text = ""
  · subst empty
    simp [chunks, paragraphs, Text.strip]
  · have stripped : Text.strip text ≠ "" := by
      intro nothing
      obtain ⟨first, rest, isText⟩ := List.exists_cons_of_ne_nil (mt String.toList_eq_nil_iff.mp empty)
      have isFirst : first ∈ (HtmlTextExtractor.new.feed events).getText.toList.head? := by
        have heads := congrArg List.head? characters
        rw [isText, List.head?_take, if_neg (by omega)] at heads
        exact heads.symm
      have notBlank := begins first isFirst
      rw [Text.strip, isText, List.dropWhile_cons_of_neg (by simp [notBlank]),
        ← String.toList_eq_nil_iff, String.toList_ofList, List.rdropWhile_eq_nil_iff] at nothing
      have blank := nothing first (by simp)
      rw [notBlank] at blank
      cases blank
    simp [chunks, paragraphs, stripped, empty]

/-- What decodes the content of a source: `HTMLParser`, the JSON reader and writer, and the PDF
reader, which may raise. -/
class ContentReaders where
  htmlEvents : List UInt8 → List HtmlEvent
  jsonText : List UInt8 → String
  pdfText : List UInt8 → Option String

/-- The content is neither JSON nor PDF by the type of the source or of the content. -/
def ReadAsHtml (sourceType : SourceType) (contentType : Option String) : Prop :=
  ¬ (sourceType = .api ∨
    "json".toList <:+: (UnicodeData.lower (contentType.getD "")).toList) ∧
  ¬ (sourceType = .pdf ∨ "pdf".toList <:+: (UnicodeData.lower (contentType.getD "")).toList)

variable [ContentReaders]

/-- `_to_text`. -/
def contentText (sourceType : SourceType) (content : List UInt8) (contentType : Option String) :
    Option String :=
  let lowered := (UnicodeData.lower (contentType.getD "")).toList
  if sourceType = .api ∨ "json".toList <:+: lowered then some (ContentReaders.jsonText content)
  else if sourceType = .pdf ∨ "pdf".toList <:+: lowered then ContentReaders.pdfText content
  else some (extractHtmlText (ContentReaders.htmlEvents content))

abbrev ContentText.ofReaders : ContentText := ⟨contentText⟩

theorem contentText_of_readAsHtml {sourceType : SourceType} {contentType : Option String}
    (isHtml : ReadAsHtml sourceType contentType) (content : List UInt8) :
    contentText sourceType content contentType =
      some (extractHtmlText (ContentReaders.htmlEvents content)) := by
  rw [contentText, if_neg isHtml.1, if_neg isHtml.2]

/-- The payload of a page has at most one section, with the first 8000 characters of its text,
whatever the parser makes of the content. If the elements of the page are closed, the text is what
the page shows. -/
theorem extractDeterministic_html (newline : UnicodeData.isSpace '\n') {maxSections : ℕ}
    {source : Pipeline.Source} {details : SourceDetails} {fetched : FetchResult}
    {extractedAt : Datetime} {result : ExtractResult}
    (isHtml : ReadAsHtml details.sourceType fetched.contentType)
    (done : @extractDeterministic _ .ofReaders maxSections source details fetched extractedAt =
      some result) :
    result.payload.sections = (if result.textContent = "" ∨ maxSections = 0 then []
        else [toSection 1 (Text.strip result.textContent)]) ∧
      ∀ pages, ContentReaders.htmlEvents fetched.content = Html.eventsOf pages →
        result.textContent =
          truncated 100000 ("\n".intercalate (shownParts (Html.visibleOf pages))) := by
  obtain ⟨text, isText, done⟩ := Option.bind_eq_some_iff.mp done
  obtain ⟨⟨groups, signals⟩, _, done⟩ := Option.bind_eq_some_iff.mp done
  obtain ⟨payload, constructed, same⟩ := Option.bind_eq_some_iff.mp done
  cases same
  rw [construct] at constructed
  split_ifs at constructed
  cases constructed
  have ofHtml : extractHtmlText (ContentReaders.htmlEvents fetched.content) = text :=
    Option.some.inj ((contentText_of_readAsHtml isHtml fetched.content).symm.trans isText)
  subst ofHtml
  refine ⟨?_, fun pages isPage => ?_⟩
  · dsimp only
    rw [toSections, chunks_extractHtmlText newline]
    by_cases empty : extractHtmlText (ContentReaders.htmlEvents fetched.content) = ""
    · simp [empty]
    · cases maxSections with
      | zero => simp
      | succ more => simp [empty]
  · dsimp only
    rw [isPage, extractHtmlText, feed_eventsOf]
    rfl

end Pages

section SamplePage

local instance pageUnicodeData : UnicodeData := .ascii

def samplePage : List Html := [
  .element "head" [.void "meta" rfl, .element "script" [.text "let age = 99;"]],
  .element "body" [.text "  Age  up\nto 45 ", .void "br" rfl,
    .element "p" [.text "Minimum\t1000"], .text " \n "]]

/-- The page as it is fetched. -/
def samplePageBytes : List UInt8 :=
  ("<head><meta><script>let age = 99;</script></head><body>  Age  up\nto 45 <br>" ++
    "<p>Minimum\t1000</p> \n </body>").toList.map fun char => char.toNat.toUInt8

local instance pageReaders : ContentReaders where
  htmlEvents content := if content = samplePageBytes then Html.eventsOf samplePage else []
  jsonText _ := ""
  pdfText _ := none

def samplePageDetails : SourceDetails where
  countryName := "Canada"
  programCode := "express-entry"
  programName := "Express Entry"
  sourceType := .html
  sourceUrl := "https://canada.example/entry"
  parserName := "deterministic-v1"

def samplePageSource : Pipeline.Source where
  id := 19
  sourceKey := "ca-express-entry"
  countryCode := "CA"
  parserVersion := "1.0.0"
  confidenceThreshold := ⟨false, 80, -2⟩
  quarantineUntil := none
  consecutiveFailures := 0

def extractedSample : Option ExtractResult :=
  @extractDeterministic _ .ofReaders 20 samplePageSource samplePageDetails
    ⟨samplePageBytes, some "text/html; charset=utf-8", "Express Entry"⟩ ⟨0, some 0⟩

theorem extractDeterministic_html_sample :
    ∃ result, extractedSample = some result ∧
      result.payload.sections = (if result.textContent = "" ∨ 20 = 0 then []
        else [toSection 1 (Text.strip result.textContent)]) ∧
      result.textContent =
        truncated 100000 ("\n".intercalate (shownParts (Html.visibleOf samplePage))) := by
  have extracts : extractedSample.isSome := by decide +kernel
  obtain ⟨result, done⟩ := Option.isSome_iff_exists.mp extracts
  have isHtml : ReadAsHtml .html (some "text/html; charset=utf-8") := by
    unfold ReadAsHtml
    decide +kernel
  have newline : UnicodeData.isSpace '\n' := by decide
  have ofPage := extractDeterministic_html newline (by exact isHtml) done
  exact ⟨result, done, ofPage.1, ofPage.2 samplePage (if_pos rfl)⟩

end SamplePage

end ImigrAI.Ingestion
