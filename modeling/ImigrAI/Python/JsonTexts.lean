import ImigrAI.Python.JsonScalars

/-!
# What `json.dumps` writes, `json.loads` reads

`json.dumps` puts blanks between the tokens: none, one after each comma and colon, or line breaks
with an indentation. Whatever the layout, the text of a value is read as that value, and what is
read has distinct keys in every object and integers that the interpreter converts.
-/

namespace ImigrAI.Python

open Loads Numerals

/-- The blanks of a rendering by depth: after an opening bracket, after a comma and before a
closing bracket, and those after a colon. -/
structure Layout where
  opening : ℕ → List Char
  separating : ℕ → List Char
  closing : ℕ → List Char
  naming : List Char
  opening_blank : ∀ depth, AllBlank (opening depth)
  separating_blank : ∀ depth, AllBlank (separating depth)
  closing_blank : ∀ depth, AllBlank (closing depth)
  naming_blank : AllBlank naming

theorem allBlank_nil : AllBlank [] := by simp [AllBlank]

theorem allBlank_space : AllBlank [' '] := by simp [AllBlank, isBlank]

namespace Layout

/-- Everything on one line, with given blanks after a comma and a colon. -/
def inline (separating naming : List Char) (separating_blank : AllBlank separating)
    (naming_blank : AllBlank naming) : Layout where
  opening _ := []
  separating _ := separating
  closing _ := []
  naming := naming
  opening_blank _ := allBlank_nil
  separating_blank _ := separating_blank
  closing_blank _ := allBlank_nil
  naming_blank := naming_blank

/-- `separators=(",", ":")`. -/
def compact : Layout := inline [] [] allBlank_nil allBlank_nil

/-- The separators of `json.dumps`. -/
def spaced : Layout := inline [' '] [' '] allBlank_space allBlank_space

/-- A line break and the indentation of a depth. -/
def newline (indent depth : ℕ) : List Char := '\n' :: List.replicate (indent * depth) ' '

theorem newline_blank (indent depth : ℕ) : AllBlank (newline indent depth) := by
  intro char charMem
  rcases List.mem_cons.mp charMem with rfl | spaceMem
  · rfl
  · rw [List.eq_of_mem_replicate spaceMem]
    rfl

/-- `indent=indent`. -/
def indented (indent : ℕ) : Layout where
  opening depth := newline indent (depth + 1)
  separating depth := newline indent (depth + 1)
  closing depth := newline indent depth
  naming := [' ']
  opening_blank depth := newline_blank indent (depth + 1)
  separating_blank depth := newline_blank indent (depth + 1)
  closing_blank depth := newline_blank indent depth
  naming_blank := allBlank_space

end Layout

namespace Value

section Rendering

variable (layout : Layout)

mutual

/-- The text of a value at a depth, with its dictionaries in the order they have. -/
def renderIn : ℕ → Value → List Char
  | _, .none => ['n', 'u', 'l', 'l']
  | _, .bool value => if value then ['t', 'r', 'u', 'e'] else ['f', 'a', 'l', 's', 'e']
  | _, .int value => intText value
  | _, .float value => jsonFloat value
  | _, .str text => jsonText text.toList
  | _, .list [] => ['[', ']']
  | depth, .list (item :: rest) =>
      '[' :: layout.opening depth ++ renderIn (depth + 1) item ++ renderItemsIn depth rest
  | _, .dict [] => ['{', '}']
  | depth, .dict ((key, value) :: rest) =>
      '{' :: layout.opening depth ++ jsonText key.toList ++ ':' :: layout.naming ++
        renderIn (depth + 1) value ++ renderEntriesIn depth rest

def renderItemsIn : ℕ → List Value → List Char
  | depth, [] => layout.closing depth ++ [']']
  | depth, item :: rest =>
      ',' :: layout.separating depth ++ renderIn (depth + 1) item ++ renderItemsIn depth rest

def renderEntriesIn : ℕ → List (String × Value) → List Char
  | depth, [] => layout.closing depth ++ ['}']
  | depth, (key, value) :: rest =>
      ',' :: layout.separating depth ++ jsonText key.toList ++ ':' :: layout.naming ++
        renderIn (depth + 1) value ++ renderEntriesIn depth rest

end

end Rendering

/-- `json.dumps(value, ensure_ascii=True, sort_keys=True, indent=2)`. -/
def dumpsIndented (value : Value) : String :=
  String.ofList (value.sortKeys.renderIn (.indented 2) 0)

/-- A value that a text can have: distinct keys, and integers that are converted. -/
structure Loadable (value : Value) : Prop where
  wellFormed : value.WellFormed
  intsFit : value.IntsFit

section Inline

variable {separating naming : List Char} (separating_blank : AllBlank separating)
  (naming_blank : AllBlank naming)

mutual

theorem renderIn_inline (depth : ℕ) (value : Value) :
    renderIn (.inline separating naming separating_blank naming_blank) depth value =
      renderWith (',' :: separating) (':' :: naming) value := by
  cases value with
  | list items =>
      cases items with
      | nil => rfl
      | cons item rest =>
          rw [renderIn, renderWith, renderIn_inline, renderItemsIn_inline]
          rfl
  | dict entries =>
      rcases entries with - | ⟨⟨key, value⟩, rest⟩
      · rfl
      · rw [renderIn, renderWith, renderIn_inline, renderEntriesIn_inline]
        rfl
  | _ => rfl

theorem renderItemsIn_inline (depth : ℕ) (items : List Value) :
    renderItemsIn (.inline separating naming separating_blank naming_blank) depth items =
      renderItemsWith (',' :: separating) (':' :: naming) items := by
  cases items with
  | nil => rfl
  | cons item rest =>
      rw [renderItemsIn, renderItemsWith, renderIn_inline, renderItemsIn_inline]
      rfl

theorem renderEntriesIn_inline (depth : ℕ) (entries : List (String × Value)) :
    renderEntriesIn (.inline separating naming separating_blank naming_blank) depth entries =
      renderEntriesWith (',' :: separating) (':' :: naming) entries := by
  rcases entries with - | ⟨⟨key, value⟩, rest⟩
  · rfl
  · rw [renderEntriesIn, renderEntriesWith, renderIn_inline, renderEntriesIn_inline]
    rfl

end

end Inline

theorem dumps_eq (value : Value) :
    value.dumps = String.ofList (value.sortKeys.renderIn .compact 0) := by
  rw [dumps, Layout.compact, renderIn_inline, renderWith_compact]

theorem dumpsSpaced_eq (value : Value) :
    value.dumpsSpaced = String.ofList (value.sortKeys.renderIn .spaced 0) := by
  rw [dumpsSpaced, Layout.spaced, renderIn_inline]

/-- The first character of the text of a value. -/
def OpensValue (first : Char) : Prop := isBlank first = false ∧ first ≠ ']' ∧ first ≠ '}'

theorem opensValue_of_token {first : Char} (token : isTokenChar first = true) :
    OpensValue first := by
  refine ⟨?_, ?_, ?_⟩
  · rw [Bool.eq_false_iff]
    intro blank
    simp only [isBlank, Bool.or_eq_true, decide_eq_true_eq] at blank
    rcases blank with ((rfl | rfl) | rfl) | rfl <;> exact absurd token (by decide)
  all_goals
    rintro rfl
    exact absurd token (by decide)

theorem renderIn_scalar (layout : Layout) (depth : ℕ) {value : Value}
    (scalar : value.shape = .scalar) : value.renderIn layout depth = value.render := by
  cases value with
  | str text => exact absurd scalar (by simp [shape])
  | list items => exact absurd scalar (by simp [shape])
  | dict entries => exact absurd scalar (by simp [shape])
  | _ => rfl

theorem renderIn_head (layout : Layout) (depth : ℕ) (value : Value) :
    ∃ first rest, value.renderIn layout depth = first :: rest ∧ OpensValue first := by
  rcases scalar : value.shape with _ | _ | _ | _
  · rcases List.exists_cons_of_ne_nil (render_scalar_ne_nil scalar) with ⟨first, rest, text⟩
    refine ⟨first, rest, (renderIn_scalar layout depth scalar).trans text, ?_⟩
    exact opensValue_of_token ((render_scalar scalar).1 first (by simp [text]))
  · cases value <;> simp only [shape, reduceCtorEq] at scalar
    exact ⟨'"', _, rfl, by simp [OpensValue, isBlank]⟩
  · cases value <;> simp only [shape, reduceCtorEq] at scalar
    rename_i items
    cases items <;> exact ⟨'[', _, rfl, by simp [OpensValue, isBlank]⟩
  · cases value <;> simp only [shape, reduceCtorEq] at scalar
    rename_i entries
    rcases entries with _ | ⟨⟨key, value⟩, entries⟩ <;>
      exact ⟨'{', _, rfl, by simp [OpensValue, isBlank]⟩

theorem boundary_append {blanks text : List Char} (all : AllBlank blanks)
    (boundary : Boundary text) : Boundary (blanks ++ text) := by
  cases blanks with
  | nil => exact boundary
  | cons first blanks =>
      intro next same
      obtain rfl : first = next := by simpa using same
      rw [Bool.eq_false_iff]
      intro token
      have solid := (opensValue_of_token token).1
      rw [all first (by simp)] at solid
      exact absurd solid (by decide)

section RoundTrip

variable (layout : Layout)

theorem boundary_renderItemsIn (depth : ℕ) (items : List Value) (rest : List Char) :
    Boundary (renderItemsIn layout depth items ++ rest) := by
  cases items with
  | nil =>
      rw [renderItemsIn, List.append_assoc]
      exact boundary_append (layout.closing_blank depth) (by simp [Boundary, isTokenChar])
  | cons item items => simp [Boundary, renderItemsIn, isTokenChar]

theorem boundary_renderEntriesIn (depth : ℕ) (entries : List (String × Value))
    (rest : List Char) : Boundary (renderEntriesIn layout depth entries ++ rest) := by
  rcases entries with _ | ⟨⟨key, value⟩, entries⟩
  · rw [renderEntriesIn, List.append_assoc]
    exact boundary_append (layout.closing_blank depth) (by simp [Boundary, isTokenChar])
  · simp [Boundary, renderEntriesIn, isTokenChar]

theorem length_renderItemsIn_pos (depth : ℕ) (items : List Value) :
    0 < (renderItemsIn layout depth items).length := by
  cases items <;> simp [renderItemsIn]

theorem length_renderEntriesIn_pos (depth : ℕ) (entries : List (String × Value)) :
    0 < (renderEntriesIn layout depth entries).length := by
  rcases entries with _ | ⟨⟨key, value⟩, entries⟩ <;> simp [renderEntriesIn]

end RoundTrip

/-- Assigning to a new key adds an entry. -/
theorem assign_of_not_mem {key : String} {entries : List (String × Value)}
    (new : key ∉ entries.map Prod.fst) (value : Value) :
    assign key value entries = entries ++ [(key, value)] := by
  induction entries with
  | nil => rfl
  | cons entry entries ih =>
      rcases entry with ⟨first, old⟩
      simp only [List.map_cons, List.mem_cons, not_or] at new
      rw [assign, if_neg (Ne.symm new.1), ih new.2]
      rfl

/-- A string that was written is read back as a whole. -/
theorem scanString_jsonText (text : List Char) (rest : List Char) :
    scanString (text.flatMap jsonChar ++ '"' :: rest).length
      (text.flatMap jsonChar ++ '"' :: rest) = .ok (text, rest) := by
  have length := length_le_flatMap_jsonChar text
  apply scanString_written
  rw [List.length_append, List.length_cons]
  omega

theorem scanValue_scalar {value : Value} (scalar : value.shape = .scalar) (fits : value.IntsFit)
    {blanks rest : List Char} (blank : AllBlank blanks) (boundary : Boundary rest) (fuel : ℕ) :
    scanValue (fuel + 1) (blanks ++ (value.render ++ rest)) = .ok (value, rest) := by
  rcases List.exists_cons_of_ne_nil (render_scalar_ne_nil scalar) with ⟨first, others, text⟩
  have token : isTokenChar first = true := (render_scalar scalar).1 first (by simp [text])
  have solid := (opensValue_of_token token).1
  have other (mark : Char) (noToken : isTokenChar mark = false) : first ≠ mark := by
    rintro rfl
    rw [token] at noToken
    exact absurd noToken (by decide)
  have read := scanScalar_render scalar fits boundary
  rw [text, List.cons_append] at read ⊢
  rw [scanValue, skipBlanks_append blank, skipBlanks_cons solid]
  simp only [other '"' (by decide), other '[' (by decide), other '{' (by decide), if_false, read]

theorem scanValue_str (text : String) {blanks : List Char} (blank : AllBlank blanks)
    (rest : List Char) (fuel : ℕ) :
    scanValue (fuel + 1) (blanks ++ (jsonText text.toList ++ rest)) = .ok (.str text, rest) := by
  have shown : jsonText text.toList ++ rest =
      '"' :: (text.toList.flatMap jsonChar ++ '"' :: rest) := by
    simp [jsonText]
  rw [shown, scanValue, skipBlanks_append blank, skipBlanks_cons (by decide)]
  simp only [if_true, scanString_jsonText, Fallible.ok_bind, String.ofList_toList]

mutual

/-- The text of a value, whatever the blanks before it and the text after it. -/
theorem scanValue_renderIn (layout : Layout) (value : Value) (depth : ℕ) {fuel : ℕ}
    {blanks rest : List Char} (wellFormed : value.WellFormed) (fits : value.IntsFit)
    (enough : (value.renderIn layout depth).length ≤ fuel) (blank : AllBlank blanks)
    (boundary : Boundary rest) :
    scanValue fuel (blanks ++ (value.renderIn layout depth ++ rest)) = .ok (value, rest) := by
  rcases renderIn_head layout depth value with ⟨first, others, head, -⟩
  cases fuel with
  | zero => simp [head] at enough
  | succ fuel =>
      cases value with
      | str text => exact scanValue_str text blank rest fuel
      | list items =>
          cases items with
          | nil =>
              rw [renderIn, scanValue, skipBlanks_append blank, List.cons_append,
                skipBlanks_cons (by decide)]
              simp only [Char.reduceEq, if_false, if_true, List.cons_append,
                token?_cons (show isBlank ']' = false by decide), List.nil_append]
          | cons item items =>
              have opening := layout.opening_blank depth
              have text : renderIn layout depth (.list (item :: items)) ++ rest =
                  '[' :: (layout.opening depth ++ (renderIn layout (depth + 1) item ++
                    (renderItemsIn layout depth items ++ rest))) := by
                simp [renderIn]
              have noClose : token? ']' (layout.opening depth ++ (renderIn layout (depth + 1) item ++
                  (renderItemsIn layout depth items ++ rest))) = Option.none := by
                rcases renderIn_head layout (depth + 1) item with ⟨next, after, shown, opens⟩
                rw [token?_append opening, shown, List.cons_append, token?_cons opens.1,
                  if_neg opens.2.1]
              have length : (renderIn layout (depth + 1) item).length +
                  (renderItemsIn layout depth items).length ≤ fuel := by
                simp only [renderIn, List.length_cons, List.length_append] at enough
                omega
              have read := scanItems_renderItemsIn layout (item :: items) depth item items rfl
                wellFormed fits length opening rest
              rw [text, scanValue, skipBlanks_append blank, skipBlanks_cons (by decide)]
              simp only [Char.reduceEq, if_false, if_true, noClose, read, Fallible.ok_bind]
      | dict entries =>
          have opening := layout.opening_blank depth
          have read (key : String) (value : Value) (others : List (String × Value))
              (same : entries = (key, value) :: others)
              (length : (renderIn layout (depth + 1) value).length +
                (renderEntriesIn layout depth others).length ≤ fuel) :=
            scanEntries_renderEntriesIn layout entries depth key value others same [] wellFormed.1
              wellFormed.2 fits length opening rest
          rcases entries with _ | ⟨⟨key, value⟩, entries⟩
          · rw [renderIn, scanValue, skipBlanks_append blank, List.cons_append,
              skipBlanks_cons (by decide)]
            simp only [Char.reduceEq, if_false, if_true, List.cons_append,
              token?_cons (show isBlank '}' = false by decide), List.nil_append]
          · have text : renderIn layout depth (.dict ((key, value) :: entries)) ++ rest =
                '{' :: (layout.opening depth ++ (jsonText key.toList ++ ':' :: (layout.naming ++
                  (renderIn layout (depth + 1) value ++
                    (renderEntriesIn layout depth entries ++ rest))))) := by
              simp [renderIn]
            have noClose : token? '}' (layout.opening depth ++ (jsonText key.toList ++ ':' ::
                (layout.naming ++ (renderIn layout (depth + 1) value ++
                  (renderEntriesIn layout depth entries ++ rest))))) = Option.none := by
              rw [token?_append opening, jsonText, List.cons_append, List.cons_append,
                token?_cons (by decide), if_neg (by decide)]
            have length : (renderIn layout (depth + 1) value).length +
                (renderEntriesIn layout depth entries).length ≤ fuel := by
              simp only [renderIn, List.length_cons, List.length_append] at enough
              omega
            rw [text, scanValue, skipBlanks_append blank, skipBlanks_cons (by decide)]
            simp only [Char.reduceEq, if_false, if_true, noClose, read key value entries rfl length,
              Fallible.ok_bind, List.nil_append]
      | _ => exact scanValue_scalar rfl fits blank boundary fuel
termination_by sizeOf value

theorem scanItems_renderItemsIn (layout : Layout) (whole : List Value) (depth : ℕ)
    (item : Value) (items : List Value) (same : whole = item :: items) {fuel : ℕ}
    {blanks : List Char} (wellFormed : ItemsWellFormed whole) (fits : ItemsFit whole)
    (enough : (renderIn layout (depth + 1) item).length +
      (renderItemsIn layout depth items).length ≤ fuel) (blank : AllBlank blanks)
    (rest : List Char) :
    scanItems fuel (blanks ++ (renderIn layout (depth + 1) item ++
      (renderItemsIn layout depth items ++ rest))) = .ok (whole, rest) := by
  have itemsPos := length_renderItemsIn_pos layout depth items
  cases whole with
  | nil => cases same
  | cons head tail =>
      rcases List.cons.inj same with ⟨rfl, rfl⟩
      cases fuel with
      | zero => omega
      | succ fuel =>
          have enoughHead : (renderIn layout (depth + 1) head).length ≤ fuel := by omega
          have read := scanValue_renderIn layout head (depth + 1) wellFormed.1 fits.1 enoughHead
            blank (boundary_renderItemsIn layout depth tail rest)
          rw [scanItems, read, Fallible.ok_bind]
          cases tail with
          | nil =>
              have closing := layout.closing_blank depth
              simp only [renderItemsIn, List.append_assoc, List.cons_append, List.nil_append,
                token?_append closing, token_append closing,
                token?_cons (show isBlank ']' = false by decide), Char.reduceEq, if_false,
                token_cons (show isBlank ']' = false by decide), Fallible.ok_bind]
          | cons next others =>
              have length : (renderIn layout (depth + 1) next).length +
                  (renderItemsIn layout depth others).length ≤ fuel := by
                simp only [renderItemsIn, List.length_cons, List.length_append] at enough
                omega
              have after := scanItems_renderItemsIn layout (next :: others) depth next others rfl
                wellFormed.2 fits.2 length (layout.separating_blank depth) rest
              simp only [renderItemsIn, List.append_assoc, List.cons_append,
                token?_cons (show isBlank ',' = false by decide), if_true, after, Fallible.ok_bind]
termination_by sizeOf whole

theorem scanEntries_renderEntriesIn (layout : Layout) (whole : List (String × Value)) (depth : ℕ)
    (key : String) (value : Value) (entries : List (String × Value))
    (same : whole = (key, value) :: entries) (done : List (String × Value)) {fuel : ℕ}
    {blanks : List Char} (distinct : ((done ++ whole).map Prod.fst).Nodup)
    (wellFormed : EntriesWellFormed whole) (fits : EntriesFit whole)
    (enough : (renderIn layout (depth + 1) value).length +
      (renderEntriesIn layout depth entries).length ≤ fuel) (blank : AllBlank blanks)
    (rest : List Char) :
    scanEntries fuel done (blanks ++ (jsonText key.toList ++ ':' :: (layout.naming ++
      (renderIn layout (depth + 1) value ++ (renderEntriesIn layout depth entries ++ rest))))) =
      .ok (done ++ whole, rest) := by
  have entriesPos := length_renderEntriesIn_pos layout depth entries
  rcases whole with _ | ⟨⟨headKey, head⟩, tail⟩
  · cases same
  · rcases List.cons.inj same with ⟨sameEntry, rfl⟩
    rcases Prod.mk.inj sameEntry with ⟨rfl, rfl⟩
    cases fuel with
    | zero => omega
    | succ fuel =>
        have shown (after : List Char) : jsonText headKey.toList ++ after =
            '"' :: (headKey.toList.flatMap jsonChar ++ '"' :: after) := by
          simp [jsonText]
        have new : headKey ∉ done.map Prod.fst := by
          rw [List.map_append, List.map_cons, List.nodup_append] at distinct
          intro keyMem
          exact distinct.2.2 headKey keyMem headKey (by simp) rfl
        have enoughHead : (renderIn layout (depth + 1) head).length ≤ fuel := by omega
        have read := scanValue_renderIn layout head (depth + 1) wellFormed.1 fits.1 enoughHead
          layout.naming_blank (boundary_renderEntriesIn layout depth tail rest)
        rw [scanEntries, token_append blank, shown, token_cons (by decide), Fallible.ok_bind,
          scanString_jsonText, Fallible.ok_bind]
        simp only [token_cons (show isBlank ':' = false by decide), Fallible.ok_bind, read,
          String.ofList_toList, assign_of_not_mem new]
        have after (nextKey : String) (next : Value) (others : List (String × Value))
            (sameTail : tail = (nextKey, next) :: others)
            (length : (renderIn layout (depth + 1) next).length +
              (renderEntriesIn layout depth others).length ≤ fuel) :=
          scanEntries_renderEntriesIn layout tail depth nextKey next others sameTail
            (done ++ [(headKey, head)]) (by simpa using distinct) wellFormed.2 fits.2 length
            (layout.separating_blank depth) rest
        rcases tail with _ | ⟨⟨nextKey, next⟩, others⟩
        · have closing := layout.closing_blank depth
          simp only [renderEntriesIn, List.append_assoc, List.cons_append, List.nil_append,
            token?_append closing, token_append closing,
            token?_cons (show isBlank '}' = false by decide), Char.reduceEq, if_false,
            token_cons (show isBlank '}' = false by decide), Fallible.ok_bind]
        · have length : (renderIn layout (depth + 1) next).length +
              (renderEntriesIn layout depth others).length ≤ fuel := by
            simp only [renderEntriesIn, List.length_cons, List.length_append] at enough
            omega
          simp only [renderEntriesIn, List.append_assoc, List.cons_append,
            token?_cons (show isBlank ',' = false by decide), if_true]
          simpa using after nextKey next others rfl length
termination_by sizeOf whole

end

/-- Whatever the layout, the text of a value is read as the value. -/
theorem loads_renderIn (layout : Layout) {value : Value} (loadable : value.Loadable) :
    loads (value.renderIn layout 0) = .ok value := by
  have enough : (value.renderIn layout 0).length ≤ 2 * (value.renderIn layout 0).length + 2 := by
    omega
  have ended : Boundary [] := by simp [Boundary]
  have read := scanValue_renderIn layout value 0 loadable.wellFormed loadable.intsFit enough
    allBlank_nil ended
  rw [List.nil_append, List.append_nil] at read
  rw [loads, read, Fallible.ok_bind]
  rfl

theorem length_toDigits_le {digits : List Char} (all : AllDigits digits) {limit : ℕ}
    (positive : 0 < limit) (fits : digits.length ≤ limit) :
    (Nat.toDigits 10 (digitsValue digits)).length ≤ limit := by
  rw [Nat.length_toDigits_le_iff (by norm_num) positive]
  exact (digitsValue_lt all).trans_le (Nat.pow_le_pow_right (by norm_num) fits)

theorem intsFit_of_digits {digits : List Char} (all : AllDigits digits)
    (fits : digits.length ≤ 4300) {number : ℤ} (same : number.natAbs = digitsValue digits) :
    (Value.int number).IntsFit := by
  rw [IntsFit, same]
  exact length_toDigits_le all (by norm_num) fits

theorem allDigits_of_scanWhole {text whole rest : List Char}
    (scanned : scanWhole text = some (whole, rest)) : AllDigits whole := by
  unfold scanWhole at scanned
  split at scanned
  · cases scanned
  · split_ifs at scanned
    · cases scanned
      simp [AllDigits, Char.isDigit]
    · cases scanned
      intro digit digitMem
      exact List.mem_takeWhile_imp digitMem

theorem loadable_of_scanScalar {text rest : List Char} {value : Value}
    (scanned : scanScalar text = .ok (value, rest)) : value.Loadable := by
  unfold scanScalar at scanned
  split at scanned
  · rename_i name constant found
    have constantMem := List.mem_of_find?_eq_some found
    cases scanned
    simp only [constants, List.mem_cons, Prod.mk.injEq, List.not_mem_nil, or_false] at constantMem
    rcases constantMem with ⟨-, rfl⟩ | ⟨-, rfl⟩ | ⟨-, rfl⟩ | ⟨-, rfl⟩ | ⟨-, rfl⟩ | ⟨-, rfl⟩ <;>
      exact ⟨trivial, trivial⟩
  · unfold scanNumber at scanned
    dsimp only at scanned
    split at scanned
    · cases scanned
    · rename_i whole afterWhole scannedWhole
      have all := allDigits_of_scanWhole scannedWhole
      split_ifs at scanned with noPoint fits
      · cases scanned
        exact ⟨trivial, intsFit_of_digits all fits (by simp)⟩
      · cases scanned
        exact ⟨trivial, intsFit_of_digits all fits (by simp)⟩
      · cases scanned
        exact ⟨trivial, trivial⟩

theorem loadable_emptyDict : (dict []).Loadable := ⟨wellFormed_emptyDict, trivial⟩

theorem keys_assign (key : String) (value : Value) (entries : List (String × Value)) :
    (assign key value entries).map Prod.fst =
      if key ∈ entries.map Prod.fst then entries.map Prod.fst
      else entries.map Prod.fst ++ [key] := by
  induction entries with
  | nil => rfl
  | cons entry entries ih =>
      rcases entry with ⟨first, old⟩
      rw [assign]
      split_ifs with same known known
      · rfl
      · simp [same] at known
      · simp only [List.map_cons, List.mem_cons, Ne.symm same, false_or] at known
        simp [ih, known]
      · simp only [List.map_cons, List.mem_cons, not_or] at known
        simp [ih, known.2]

theorem entries_assign (key : String) {value : Value} {entries : List (String × Value)}
    (loadable : value.Loadable) (wellFormed : EntriesWellFormed entries)
    (fits : EntriesFit entries) :
    EntriesWellFormed (assign key value entries) ∧ EntriesFit (assign key value entries) := by
  induction entries with
  | nil => exact ⟨⟨loadable.wellFormed, trivial⟩, loadable.intsFit, trivial⟩
  | cons entry entries ih =>
      rcases entry with ⟨first, old⟩
      rw [assign]
      split_ifs
      · exact ⟨⟨loadable.wellFormed, wellFormed.2⟩, loadable.intsFit, fits.2⟩
      · have rest := ih wellFormed.2 fits.2
        exact ⟨⟨wellFormed.1, rest.1⟩, fits.1, rest.2⟩

theorem loadable_assign (key : String) {value : Value} {entries : List (String × Value)}
    (loadable : value.Loadable) (others : (dict entries).Loadable) :
    (dict (assign key value entries)).Loadable := by
  have parts := entries_assign key loadable others.wellFormed.2 others.intsFit
  refine ⟨⟨?_, parts.1⟩, parts.2⟩
  have distinct := others.wellFormed.1
  rw [keys_assign]
  split_ifs with known
  · exact distinct
  · rw [List.nodup_append]
    refine ⟨distinct, by simp, ?_⟩
    intro first firstMem other otherMem
    rw [List.mem_singleton.mp otherMem]
    rintro rfl
    exact known firstMem

/-- What the scanner reads, for values, items and entries that follow others. -/
theorem loadable_of_scan (fuel : ℕ) :
    (∀ text value rest, scanValue fuel text = .ok (value, rest) → value.Loadable) ∧
    (∀ text items rest, scanItems fuel text = .ok (items, rest) → (list items).Loadable) ∧
    (∀ entries text result rest, (dict entries).Loadable →
      scanEntries fuel entries text = .ok (result, rest) → (dict result).Loadable) := by
  induction fuel with
  | zero => simp [scanValue, scanItems, scanEntries]
  | succ fuel ih =>
      rcases ih with ⟨values, lists, dicts⟩
      refine ⟨?_, ?_, ?_⟩
      · intro text value rest scanned
        rw [scanValue] at scanned
        split at scanned
        · cases scanned
        · split_ifs at scanned
          · rcases Fallible.bind_eq_ok_iff.mp scanned with ⟨read, -, same⟩
            cases same
            exact ⟨trivial, trivial⟩
          · split at scanned
            · cases scanned
              exact ⟨trivial, trivial⟩
            · rcases Fallible.bind_eq_ok_iff.mp scanned with ⟨read, items, same⟩
              cases same
              exact lists _ _ _ items
          · split at scanned
            · cases scanned
              exact loadable_emptyDict
            · rcases Fallible.bind_eq_ok_iff.mp scanned with ⟨read, entries, same⟩
              cases same
              exact dicts _ _ _ _ loadable_emptyDict entries
          · exact loadable_of_scanScalar scanned
      · intro text items rest scanned
        rw [scanItems] at scanned
        rcases Fallible.bind_eq_ok_iff.mp scanned with ⟨read, item, after⟩
        have first := values _ _ _ item
        dsimp only at after
        split at after
        · rcases Fallible.bind_eq_ok_iff.mp after with ⟨others, items, same⟩
          cases same
          have tail := lists _ _ _ items
          exact ⟨⟨first.wellFormed, tail.wellFormed⟩, first.intsFit, tail.intsFit⟩
        · rcases Fallible.bind_eq_ok_iff.mp after with ⟨others, -, same⟩
          cases same
          exact ⟨⟨first.wellFormed, trivial⟩, first.intsFit, trivial⟩
      · intro entries text result rest loadable scanned
        rw [scanEntries] at scanned
        rcases Fallible.bind_eq_ok_iff.mp scanned with ⟨_, -, scanned⟩
        rcases Fallible.bind_eq_ok_iff.mp scanned with ⟨key, -, scanned⟩
        rcases Fallible.bind_eq_ok_iff.mp scanned with ⟨_, -, scanned⟩
        rcases Fallible.bind_eq_ok_iff.mp scanned with ⟨read, value, after⟩
        have assigned := loadable_assign (String.ofList key.1) (values _ _ _ value) loadable
        dsimp only at after
        split at after
        · exact dicts _ _ _ _ assigned after
        · rcases Fallible.bind_eq_ok_iff.mp after with ⟨others, -, same⟩
          cases same
          exact assigned

theorem loadable_of_loads {text : List Char} {value : Value} (loaded : loads text = .ok value) :
    value.Loadable := by
  rcases Fallible.bind_eq_ok_iff.mp loaded with ⟨read, scanned, ended⟩
  dsimp only at ended
  split_ifs at ended
  cases ended
  exact (loadable_of_scan _).1 _ _ _ scanned

theorem sortEntries_eq_map (entries : List (String × Value)) :
    sortEntries entries = entries.map fun entry => (entry.1, entry.2.sortKeys) := by
  induction entries with
  | nil => rfl
  | cons entry entries ih =>
      rcases entry with ⟨key, value⟩
      rw [sortEntries, ih]
      rfl

/-- Sorting the entries and sorting inside them commute. -/
theorem sortEntries_insertionSort (entries : List (String × Value)) :
    sortEntries (entries.insertionSort fun left right => left.1 ≤ right.1) =
      (sortEntries entries).insertionSort fun left right => left.1 ≤ right.1 := by
  rw [sortEntries_eq_map, sortEntries_eq_map]
  apply List.map_insertionSort
  intro left _ right _
  rfl

mutual

theorem sortKeys_sortKeys (value : Value) : value.sortKeys.sortKeys = value.sortKeys := by
  cases value with
  | list items => rw [sortKeys, sortKeys, sortItems_sortItems]
  | dict entries =>
      have sorted := List.pairwise_insertionSort
        (fun left right : String × Value => left.1 ≤ right.1) (sortEntries entries)
      rw [sortKeys, sortKeys, sortEntries_insertionSort, sortEntries_sortEntries,
        sorted.insertionSort_eq]
  | _ => rfl

theorem sortItems_sortItems (items : List Value) :
    sortItems (sortItems items) = sortItems items := by
  cases items with
  | nil => rfl
  | cons item items => rw [sortItems, sortItems, sortKeys_sortKeys, sortItems_sortItems]

theorem sortEntries_sortEntries (entries : List (String × Value)) :
    sortEntries (sortEntries entries) = sortEntries entries := by
  rcases entries with _ | ⟨⟨key, value⟩, entries⟩
  · rfl
  · rw [sortEntries, sortEntries, sortKeys_sortKeys, sortEntries_sortEntries]

end

theorem entriesWellFormed_iff {entries : List (String × Value)} :
    EntriesWellFormed entries ↔ ∀ entry ∈ entries, entry.2.WellFormed := by
  induction entries with
  | nil => simp [EntriesWellFormed]
  | cons entry entries ih =>
      rcases entry with ⟨key, value⟩
      simp [EntriesWellFormed, ih]

theorem entriesFit_iff {entries : List (String × Value)} :
    EntriesFit entries ↔ ∀ entry ∈ entries, entry.2.IntsFit := by
  induction entries with
  | nil => simp [EntriesFit]
  | cons entry entries ih =>
      rcases entry with ⟨key, value⟩
      simp [EntriesFit, ih]

mutual

theorem wellFormed_sortKeys (value : Value) (wellFormed : value.WellFormed) :
    value.sortKeys.WellFormed := by
  cases value with
  | list items => exact itemsWellFormed_sortItems items wellFormed
  | dict entries =>
      refine ⟨?_, ?_⟩
      · rw [((List.perm_insertionSort _ _).map Prod.fst).nodup_iff, sortEntries_keys]
        exact wellFormed.1
      · rw [entriesWellFormed_iff]
        intro entry entryMem
        exact entriesWellFormed_iff.mp (entriesWellFormed_sortEntries entries wellFormed.2) entry
          ((List.mem_insertionSort _).mp entryMem)
  | _ => trivial

theorem itemsWellFormed_sortItems (items : List Value) (wellFormed : ItemsWellFormed items) :
    ItemsWellFormed (sortItems items) := by
  cases items with
  | nil => trivial
  | cons item items =>
      exact ⟨wellFormed_sortKeys item wellFormed.1, itemsWellFormed_sortItems items wellFormed.2⟩

theorem entriesWellFormed_sortEntries (entries : List (String × Value))
    (wellFormed : EntriesWellFormed entries) : EntriesWellFormed (sortEntries entries) := by
  rcases entries with _ | ⟨⟨key, value⟩, entries⟩
  · trivial
  · exact ⟨wellFormed_sortKeys value wellFormed.1,
      entriesWellFormed_sortEntries entries wellFormed.2⟩

end

mutual

theorem intsFit_sortKeys (value : Value) (fits : value.IntsFit) : value.sortKeys.IntsFit := by
  cases value with
  | list items => exact itemsFit_sortItems items fits
  | dict entries =>
      rw [sortKeys, IntsFit, entriesFit_iff]
      intro entry entryMem
      exact entriesFit_iff.mp (entriesFit_sortEntries entries fits) entry
        ((List.mem_insertionSort _).mp entryMem)
  | _ => exact fits

theorem itemsFit_sortItems (items : List Value) (fits : ItemsFit items) :
    ItemsFit (sortItems items) := by
  cases items with
  | nil => trivial
  | cons item items =>
      exact ⟨intsFit_sortKeys item fits.1, itemsFit_sortItems items fits.2⟩

theorem entriesFit_sortEntries (entries : List (String × Value)) (fits : EntriesFit entries) :
    EntriesFit (sortEntries entries) := by
  rcases entries with _ | ⟨⟨key, value⟩, entries⟩
  · trivial
  · exact ⟨intsFit_sortKeys value fits.1, entriesFit_sortEntries entries fits.2⟩

end

theorem Loadable.sortKeys {value : Value} (loadable : value.Loadable) :
    value.sortKeys.Loadable :=
  ⟨wellFormed_sortKeys value loadable.wellFormed, intsFit_sortKeys value loadable.intsFit⟩

/-- Each of the three renderings of a value is read as the value with its keys sorted. -/
theorem loads_renderings {value : Value} (loadable : value.Loadable) :
    loads value.dumps.toList = .ok value.sortKeys ∧
      loads value.dumpsSpaced.toList = .ok value.sortKeys ∧
      loads value.dumpsIndented.toList = .ok value.sortKeys := by
  rw [dumps_eq, dumpsSpaced_eq, dumpsIndented]
  simp only [String.toList_ofList]
  exact ⟨loads_renderIn .compact loadable.sortKeys, loads_renderIn .spaced loadable.sortKeys,
    loads_renderIn (.indented 2) loadable.sortKeys⟩

/-- The values that a text can have are those that can be written. -/
theorem exists_loads_iff {value : Value} : (∃ text, loads text = .ok value) ↔ value.Loadable := by
  constructor
  · rintro ⟨text, loaded⟩
    exact loadable_of_loads loaded
  · intro loadable
    exact ⟨value.renderIn .compact 0, loads_renderIn .compact loadable⟩

/-- `{ "b": [-1], "a" : "\n", "b":true}`, in which the second `b` counts. -/
def sampleText : List Char :=
  ['{', ' ', '"', 'b', '"', ':', ' ', '[', '-', '1', ']', ',', ' ', '"', 'a', '"', ' ', ':', ' ',
    '"', '\\', 'n', '"', ',', ' ', '"', 'b', '"', ':', 't', 'r', 'u', 'e', '}']

def sampleValue : Value := .dict [("b", .bool true), ("a", .str "\n")]

theorem loads_sampleText : loads sampleText = .ok sampleValue := rfl

end Value

end ImigrAI.Python
