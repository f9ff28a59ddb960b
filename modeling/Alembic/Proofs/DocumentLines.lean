import Mathlib
import Alembic.Proofs.Compilation
/-! # The lines of a text resource -/

namespace Alembic.Resource

/-! ## Literals stay on one line -/

/-- The characters numbers are written with: digits, signs, the point and the letters of `NaN`
and `Inf`. -/
def NumeralChar (c : Char) : Prop :=
  c.isDigit = true ∨ c ∈ ['-', '+', '.', 'N', 'a', 'I', 'n', 'f']

instance : DecidablePred NumeralChar := fun _ => inferInstanceAs (Decidable (_ ∨ _))

theorem NumeralChar.ne {c : Char} (numeral : NumeralChar c) : c ≠ '\n' ∧ c ≠ ' ' ∧ c ≠ '=' := by
  rcases numeral with digit | listed
  · refine ⟨?_, ?_, ?_⟩ <;> rintro rfl <;> revert digit <;> decide
  · simp only [List.mem_cons, List.not_mem_nil, or_false] at listed
    rcases listed with rfl | rfl | rfl | rfl | rfl | rfl | rfl | rfl <;> decide

theorem numeral_append {first second : String} (firstNumeral : ∀ c ∈ first.toList, NumeralChar c)
    (secondNumeral : ∀ c ∈ second.toList, NumeralChar c) : ∀ c ∈ (first ++ second).toList, NumeralChar c := by
  intro c member
  rw [String.toList_append] at member
  rcases List.mem_append.mp member with inFirst | inSecond
  · exact firstNumeral c inFirst
  · exact secondNumeral c inSecond

theorem numeralChar_of_mem_toDigits {c : Char} {n : Nat} (member : c ∈ Nat.toDigits 10 n) : NumeralChar c :=
  Or.inl (Nat.isDigit_of_mem_toDigits (by decide) (by decide) member)

theorem natText_numeral (value : Nat) : ∀ c ∈ (Shortest.natText value).toList, NumeralChar c := by
  intro c member
  rw [Shortest.natText, String.toList_ofList] at member
  exact numeralChar_of_mem_toDigits member

theorem intText_numeral (value : Int) : ∀ c ∈ (intText value).toList, NumeralChar c := by
  rw [intText, Int.toString_eq_repr, Int.repr_eq_if]
  split
  · exact natText_numeral _
  · exact numeral_append (by simp; decide) (natText_numeral _)

theorem fixed_numeral (value : Shortest.Decimal) : ∀ c ∈ (Shortest.fixed value).toList, NumeralChar c := by
  unfold Shortest.fixed
  dsimp only
  split
  · exact natText_numeral _
  · -- the whole part, the point, the zeros padding the fraction and the fraction's digits
    refine numeral_append (numeral_append (natText_numeral _) (by simp; decide)) ?_
    refine numeral_append (fun c member => ?_) (natText_numeral _)
    rw [String.toList_ofList] at member
    rw [List.eq_of_mem_replicate member]
    decide

theorem fixedText_numeral (x : Float) : ∀ c ∈ (Double.fixedText x).toList, NumeralChar c := by
  have sign : ∀ negative : Bool, ∀ c ∈ (if negative = true then "-" else "").toList, NumeralChar c := by
    intro negative
    cases negative
    · simp
    · simp
      decide
  unfold Double.fixedText
  split
  · simp
    decide
  · split <;> simp <;> decide
  · dsimp only
    split
    · exact numeral_append (sign _) (by simp; decide)
    · exact numeral_append (sign _) (fixed_numeral _)

theorem escapeChar_newline (c : Char) : '\n' ∉ (escapeChar c).toList := by
  unfold escapeChar
  split <;> simp_all [eq_comm]

theorem toList_stringLiteral (content : String) :
    (stringLiteral content).toList = '"' :: content.toList.flatMap (fun c => (escapeChar c).toList) ++ ['"'] := by
  simp [stringLiteral, String.toList_join, List.flatMap_map]

theorem stringLiteral_newline (content : String) : '\n' ∉ (stringLiteral content).toList := by
  rw [toList_stringLiteral]
  simp [List.mem_flatMap, escapeChar_newline]

theorem not_mem_intercalate {c : Char} {separator : List Char} (apart : c ∉ separator) :
    ∀ {pieces : List (List Char)}, (∀ piece ∈ pieces, c ∉ piece) → c ∉ separator.intercalate pieces
  | [], _ => by simp
  | [piece], free => by simpa using free piece List.mem_cons_self
  | first :: second :: rest, free => by
    rw [List.intercalate_cons_cons]
    simp only [List.mem_append, not_or]
    exact ⟨⟨free first List.mem_cons_self, apart⟩,
      not_mem_intercalate apart fun piece member => free piece (List.mem_cons_of_mem _ member)⟩

/-- No value literal holds a newline. -/
theorem render_newline : ∀ value : Value, '\n' ∉ value.render.toList
  | .text content => by
    rw [Value.render]
    exact stringLiteral_newline content
  | .integer value => by
    rw [Value.render]
    exact fun member => (intText_numeral value _ member).ne.1 rfl
  | .real value => by
    rw [Value.render]
    exact fun member => (fixedText_numeral value _ member).ne.1 rfl
  | .reference id => by
    simp only [Value.render, String.toList_append, List.mem_append, not_or]
    exact ⟨⟨by simp, fun member => (intText_numeral id _ member).ne.1 rfl⟩, by simp⟩
  | .array items => by
    simp only [Value.render, String.toList_append, String.toList_intercalate, List.mem_append, not_or]
    refine ⟨⟨by simp, not_mem_intercalate (by simp) ?_⟩, by simp⟩
    intro piece member
    simp only [List.map_map, List.mem_map, List.mem_attach, true_and, Subtype.exists] at member
    obtain ⟨item, -, rfl⟩ := member
    exact render_newline item
  | .null => by simp [Value.render]

/-- A value literal starts with a quote, a bracket, a letter, a sign or a digit, never with `=`. -/
theorem render_head (value : Value) : value.render.toList.head? ≠ some '=' := by
  have numeral : ∀ text : String, (∀ c ∈ text.toList, NumeralChar c) → text.toList.head? ≠ some '=' :=
    fun text numerals first => (numerals '=' (List.mem_of_mem_head? first)).ne.2.2 rfl
  cases value with
  | text content => simp [Value.render, toList_stringLiteral]
  | integer value =>
    rw [Value.render]
    exact numeral _ (intText_numeral value)
  | real value =>
    rw [Value.render]
    exact numeral _ (fixedText_numeral value)
  | reference id => simp [Value.render]
  | array items => simp [Value.render]
  | null => simp [Value.render]

/-! ## String literals read back -/

/-- The character an escape sequence stands for. -/
def unescape : Char → Option Char
  | '\\' => some '\\'
  | '"' => some '"'
  | 'n' => some '\n'
  | 't' => some '\t'
  | _ => none

/-- Reads the content of a string literal from just after its opening quote: the content, and
what follows the closing quote. -/
def unquote : List Char → Option (List Char × List Char)
  | [] => none
  | '"' :: rest => some ([], rest)
  | '\\' :: escaped :: rest =>
    (unescape escaped).bind fun c => (unquote rest).map fun read => (c :: read.1, read.2)
  | c :: rest => (unquote rest).map fun read => (c :: read.1, read.2)

theorem unquote_plain {c : Char} (notQuote : c ≠ '"') (notBackslash : c ≠ '\\') (rest : List Char) :
    unquote (c :: rest) = (unquote rest).map fun read => (c :: read.1, read.2) := by
  conv_lhs => rw [unquote.eq_def]
  split <;> simp_all

/-- A string literal reads back as its content, whatever follows it. -/
theorem unquote_escaped (after : List Char) :
    ∀ content : List Char,
      unquote (content.flatMap (fun c => (escapeChar c).toList) ++ '"' :: after) = some (content, after)
  | [] => by simp [unquote]
  | c :: rest => by
    have read := unquote_escaped after rest
    rw [List.flatMap_cons, List.append_assoc]
    by_cases backslash : c = '\\'
    · subst backslash
      rw [show (escapeChar '\\').toList = ['\\', '\\'] by simp [escapeChar]]
      simp [unquote, unescape, read]
    by_cases quote : c = '"'
    · subst quote
      rw [show (escapeChar '"').toList = ['\\', '"'] by simp [escapeChar]]
      simp [unquote, unescape, read]
    by_cases newline : c = '\n'
    · subst newline
      rw [show (escapeChar '\n').toList = ['\\', 'n'] by simp [escapeChar]]
      simp [unquote, unescape, read]
    by_cases tab : c = '\t'
    · subst tab
      rw [show (escapeChar '\t').toList = ['\\', 't'] by simp [escapeChar]]
      simp [unquote, unescape, read]
    have plain : escapeChar c = String.singleton c := by
      unfold escapeChar
      split <;> simp_all
    rw [plain, String.toList_singleton, List.singleton_append, unquote_plain quote backslash, read]
    rfl

/-- The rest of a line after a fixed text it starts with. -/
def afterText (text : String) (line : List Char) : Option (List Char) :=
  if text.toList <+: line then some (line.drop text.toList.length) else none

theorem afterText_append (text : String) (rest : List Char) : afterText text (text.toList ++ rest) = some rest := by
  simp [afterText]

/-- An integer literal read up to the space that ends it. -/
theorem intText_before_space (value : Int) (rest : List Char) :
    ((intText value).toList ++ ' ' :: rest).takeWhile (· != ' ') = (intText value).toList ∧
      ((intText value).toList ++ ' ' :: rest).dropWhile (· != ' ') = ' ' :: rest := by
  have unspaced : ∀ c ∈ (intText value).toList, (c != ' ') = true :=
    fun c member => by simpa using (intText_numeral value c member).ne.2.1
  rw [List.takeWhile_append_of_pos unspaced, List.dropWhile_append_of_pos unspaced]
  simp

/-! ## The lines of a document -/

/-- The header line: the kind, the script class unless it is empty, and the load steps. -/
def Document.headerLine (document : Document) : String :=
  "[gd_resource type=" ++ stringLiteral document.kind ++
    (if document.scriptClass.isEmpty then "" else " script_class=" ++ stringLiteral document.scriptClass) ++
    " load_steps=" ++ intText document.loadSteps ++ " format=3]"

/-- The line of an external resource. -/
def External.line (external : External) : String :=
  "[ext_resource type=" ++ stringLiteral external.kind ++ " path=" ++ stringLiteral external.path ++
    " id=" ++ stringLiteral (intText external.id) ++ "]"

/-- The line of a property. -/
def Property.line (property : Property) : String :=
  property.name ++ " = " ++ property.value.render

/-- The lines of a document, in order. -/
def Document.lines (document : Document) : List String :=
  [document.headerLine, ""] ++ document.externals.map External.line ++ ["", "[resource]"] ++
    document.properties.map Property.line

/-- Property names a line reader can tell from their values: not empty, on one line and without
the separator; and values on one line. -/
structure Document.LineSafe (document : Document) : Prop where
  names : ∀ property ∈ document.properties,
    property.name ≠ "" ∧ '\n' ∉ property.name.toList ∧ ¬" = ".toList <:+: property.name.toList
  values : ∀ property ∈ document.properties, '\n' ∉ property.value.render.toList

theorem toList_header (document : Document) :
    document.header.toList = document.headerLine.toList ++ ['\n', '\n'] := by
  unfold Document.header Document.headerLine formatVersion
  simp only [String.toList_append, List.append_assoc]
  simp
  rfl

theorem toList_externalLine (external : External) :
    (Document.externalLine external).toList = external.line.toList ++ ['\n'] := by
  unfold Document.externalLine External.line
  simp only [String.toList_append, List.append_assoc]
  simp

theorem toList_propertyLine (property : Property) :
    (Document.propertyLine property).toList = property.line.toList ++ ['\n'] := by
  unfold Document.propertyLine Property.line
  simp only [String.toList_append, List.append_assoc]
  simp

/-- The text of a document is its lines, each ended by a newline. -/
theorem toList_render (document : Document) :
    document.render.toList = (document.lines.map String.toList).flatMap (· ++ ['\n']) := by
  unfold Document.render Document.lines
  simp only [String.toList_append, String.toList_join, List.map_append, List.map_map, List.flatMap_append,
    List.flatMap_map, Function.comp_def, toList_header, toList_externalLine, toList_propertyLine]
  simp

/-- Lines without newlines, each ended by one, split back into the lines and an empty rest. -/
theorem splitOn_newlines : ∀ lines : List (List Char), (∀ line ∈ lines, '\n' ∉ line) →
    (lines.flatMap (· ++ ['\n'])).splitOn '\n' = lines ++ [[]]
  | [], _ => rfl
  | line :: rest, free => by
    rw [List.flatMap_cons, List.append_assoc, List.singleton_append,
      List.splitOn_append_cons_self_of_not_mem (free line List.mem_cons_self),
      splitOn_newlines rest fun other member => free other (List.mem_cons_of_mem _ member)]
    rfl

theorem intText_newline (value : Int) : '\n' ∉ (intText value).toList :=
  fun member => (intText_numeral value _ member).ne.1 rfl

theorem headerLine_newline (document : Document) : '\n' ∉ document.headerLine.toList := by
  have scriptClass : '\n' ∉ (if document.scriptClass.isEmpty then ""
      else " script_class=" ++ stringLiteral document.scriptClass).toList := by
    split
    · simp
    · simp only [String.toList_append, List.mem_append, not_or]
      exact ⟨by simp, stringLiteral_newline _⟩
  unfold Document.headerLine
  simp only [String.toList_append, List.append_assoc, List.mem_append, not_or]
  exact ⟨by simp, stringLiteral_newline _, scriptClass, by simp, intText_newline _, by simp⟩

theorem External.line_newline (external : External) : '\n' ∉ external.line.toList := by
  unfold External.line
  simp only [String.toList_append, List.append_assoc, List.mem_append, not_or]
  exact ⟨by simp, stringLiteral_newline _, by simp, stringLiteral_newline _, by simp, stringLiteral_newline _,
    by simp⟩

theorem Property.line_newline {property : Property} (name : '\n' ∉ property.name.toList) :
    '\n' ∉ property.line.toList := by
  unfold Property.line
  simp only [String.toList_append, List.append_assoc, List.mem_append, not_or]
  exact ⟨name, by simp, render_newline property.value⟩

/-- Every line of a document whose names are on one line is on one line. -/
theorem lines_newline {document : Document} (safe : document.LineSafe) :
    ∀ line ∈ document.lines.map String.toList, '\n' ∉ line := by
  intro line member
  simp only [Document.lines, List.map_append, List.map_cons, List.map_nil, List.map_map, List.mem_append,
    List.mem_cons, List.not_mem_nil, or_false, List.mem_map, Function.comp_apply] at member
  rcases member with ((((rfl | rfl) | ⟨external, -, rfl⟩) | (rfl | rfl)) | ⟨property, inside, rfl⟩)
  · exact headerLine_newline document
  · simp
  · exact external.line_newline
  · simp
  · simp
  · exact Property.line_newline (safe.names property inside).2.1

/-! ## Reading a document back -/

/-- What the line reader gives back: every field of a document, with each property's value as
its literal. -/
structure Reading where
  kind : String
  scriptClass : String
  loadSteps : Int
  externals : List External
  properties : List (String × String)

/-- The reading of a document's own fields. -/
def Document.reading (document : Document) : Reading :=
  { kind := document.kind, scriptClass := document.scriptClass, loadSteps := document.loadSteps,
    externals := document.externals,
    properties := document.properties.map fun property => (property.name, property.value.render) }

/-- Reads a string literal at the start of a line: its content and the rest of the line. -/
def readString : List Char → Option (List Char × List Char)
  | '"' :: rest => unquote rest
  | _ => none

theorem readString_stringLiteral (content : String) (rest : List Char) :
    readString ((stringLiteral content).toList ++ rest) = some (content.toList, rest) := by
  simp only [toList_stringLiteral, List.cons_append, List.append_assoc, readString]
  exact unquote_escaped rest content.toList

/-- Reads a header line: the kind, the script class (empty when it is left out) and the load
steps. -/
def readHeader (line : List Char) : Option (String × String × Int) := do
  let (kind, rest) ← readString (← afterText "[gd_resource type=" line)
  let (scriptClass, rest) ← match afterText " script_class=" rest with
    | some quoted => readString quoted
    | none => some ([], rest)
  let rest ← afterText " load_steps=" rest
  let loadSteps ← (String.ofList (rest.takeWhile (· != ' '))).toInt?
  if rest.dropWhile (· != ' ') = " format=3]".toList then
    some (String.ofList kind, String.ofList scriptClass, loadSteps)
  else none

/-- Reads the line of an external resource. -/
def readExternal (line : List Char) : Option External := do
  let (kind, rest) ← readString (← afterText "[ext_resource type=" line)
  let (path, rest) ← readString (← afterText " path=" rest)
  let (id, rest) ← readString (← afterText " id=" rest)
  let id ← (String.ofList id).toInt?
  if rest = [']'] then some ⟨String.ofList kind, String.ofList path, id⟩ else none

/-- Splits a property line at its separator: the first ` = ` followed by a value literal, which
never starts with `=`. -/
def splitProperty : List Char → Option (List Char × List Char)
  | [] => none
  | c :: rest =>
    let further := (splitProperty rest).map fun split => (c :: split.1, split.2)
    match c, rest with
    | ' ', '=' :: ' ' :: value => if value.head? = some '=' then further else some ([], value)
    | _, _ => further

/-- Reads a property line: the name and the literal of the value. -/
def readProperty (line : List Char) : Option (String × String) :=
  (splitProperty line).map fun split => (String.ofList split.1, String.ofList split.2)

/-- Reads the lines of a document: the header, an empty line, the external resources up to the
next empty line, `[resource]`, and the properties to the end. -/
def readLines : List (List Char) → Option Reading
  | header :: [] :: rest => do
    let (kind, scriptClass, loadSteps) ← readHeader header
    let externals ← (rest.takeWhile fun line => !line.isEmpty).mapM readExternal
    match rest.dropWhile fun line => !line.isEmpty with
    | [] :: resource :: properties =>
      if resource = "[resource]".toList then
        (properties.mapM readProperty).map fun properties =>
          { kind, scriptClass, loadSteps, externals, properties }
      else none
    | _ => none
  | _ => none

/-- Reads the text of a document: its lines, each ended by a newline. -/
def readDocument (text : String) : Option Reading :=
  match (text.toList.splitOn '\n').reverse with
  | [] :: lines => readLines lines.reverse
  | _ => none

/-- An integer literal reads back as the integer. -/
theorem toInt?_intText (value : Int) : (String.ofList (intText value).toList).toInt? = some value := by
  rw [String.ofList_toList, intText, Int.toString_eq_repr, Int.toInt?_repr]

theorem afterText_scriptClass_absent (rest : List Char) :
    afterText " script_class=" (" load_steps=".toList ++ rest) = none := by
  simp [afterText]

/-- A header line reads back as its kind, script class and load steps. -/
theorem readHeader_headerLine (document : Document) :
    readHeader document.headerLine.toList = some (document.kind, document.scriptClass, document.loadSteps) := by
  obtain ⟨digits, closing⟩ := intText_before_space document.loadSteps "format=3]".toList
  have format : " format=3]".toList = ' ' :: "format=3]".toList := by simp
  unfold Document.headerLine readHeader
  simp only [String.toList_append, List.append_assoc, afterText_append, readString_stringLiteral,
    Option.bind_eq_bind, Option.bind_some]
  -- the script class is written, and read, only when it is not empty
  cases empty : document.scriptClass.isEmpty
  · simp only [Bool.false_eq_true, if_false, String.toList_append, List.append_assoc, afterText_append,
      readString_stringLiteral, Option.bind_some]
    rw [format, digits, closing, toInt?_intText]
    simp [String.ofList_toList]
  · simp only [if_true, String.toList_empty, List.nil_append, afterText_scriptClass_absent, afterText_append,
      Option.bind_some]
    rw [format, digits, closing, toInt?_intText]
    simp [String.ofList_toList, (String.isEmpty_iff).mp empty]

/-- The line of an external resource reads back as the resource. -/
theorem readExternal_line (external : External) : readExternal external.line.toList = some external := by
  unfold External.line readExternal
  simp only [String.toList_append, List.append_assoc, afterText_append, readString_stringLiteral,
    Option.bind_eq_bind, Option.bind_some]
  rw [toInt?_intText]
  simp [String.ofList_toList]

/-- A name without the separator, then the separator, then a value that does not start with `=`,
splits at that separator. -/
theorem splitProperty_line {value : List Char} (start : value.head? ≠ some '=') :
    ∀ {name : List Char}, ¬[' ', '=', ' '] <:+: name →
      splitProperty (name ++ ' ' :: '=' :: ' ' :: value) = some (name, value)
  | [], _ => by simp [splitProperty, start]
  | c :: rest, apart => by
    have further := splitProperty_line start fun inside => apart (List.infix_cons inside)
    rw [List.cons_append]
    unfold splitProperty
    simp only [further, Option.map_some]
    split
    · next tail joined =>
      split
      · rfl
      · next notEquals =>
        -- a separator found before the real one is the name's own, or is followed by `=`
        exfalso
        match rest, joined with
        | [], joined => simp at joined
        | [_], joined =>
          simp only [List.cons_append, List.nil_append, List.cons.injEq] at joined
          obtain ⟨-, -, rfl⟩ := joined
          exact notEquals rfl
        | _ :: _ :: more, joined =>
          simp only [List.cons_append, List.cons.injEq] at joined
          obtain ⟨rfl, rfl, -⟩ := joined
          exact apart (List.prefix_append [' ', '=', ' '] more).isInfix
    · rfl

theorem readProperty_line {property : Property} (apart : ¬" = ".toList <:+: property.name.toList) :
    readProperty property.line.toList = some (property.name, property.value.render) := by
  have separator : " = ".toList = [' ', '=', ' '] := by simp
  unfold Property.line readProperty
  rw [String.toList_append, String.toList_append, List.append_assoc, separator, List.cons_append,
    List.cons_append, List.cons_append, List.nil_append,
    splitProperty_line (render_head property.value) (separator ▸ apart)]
  simp [String.ofList_toList]

theorem mapM_map_eq_some {α β γ : Type} {read : β → Option γ} {write : α → β} {field : α → γ} :
    ∀ {items : List α}, (∀ item ∈ items, read (write item) = some (field item)) →
      (items.map write).mapM read = some (items.map field)
  | [], _ => rfl
  | item :: rest, each => by
    rw [List.map_cons, List.mapM_cons, each item List.mem_cons_self,
      mapM_map_eq_some fun other member => each other (List.mem_cons_of_mem _ member)]
    rfl

theorem External.line_ne_nil (external : External) : external.line.toList ≠ [] := by
  unfold External.line
  simp

/-- A document whose names a reader can tell from their values reads back as its fields. -/
theorem readDocument_render {document : Document} (safe : document.LineSafe) :
    readDocument document.render = some document.reading := by
  rw [readDocument, toList_render, splitOn_newlines _ (lines_newline safe), List.reverse_append]
  simp only [List.reverse_cons, List.reverse_nil, List.nil_append, List.singleton_append, List.reverse_reverse]
  -- the external lines are never empty, so the empty line after them ends them
  have nonempty : ∀ line ∈ document.externals.map fun external => external.line.toList, (!line.isEmpty) = true := by
    simp only [List.mem_map]
    rintro line ⟨external, -, rfl⟩
    simpa using external.line_ne_nil
  unfold Document.lines
  simp only [List.map_append, List.map_cons, List.map_map, Function.comp_def, List.append_assoc,
    List.cons_append, List.nil_append, String.toList_empty]
  rw [readLines]
  simp only [readHeader_headerLine, Option.bind_eq_bind, Option.bind_some, List.takeWhile_append_of_pos nonempty,
    List.dropWhile_append_of_pos nonempty]
  have externals : (document.externals.map fun external => external.line.toList).mapM readExternal =
      some document.externals := by
    have read := mapM_map_eq_some fun (external : External) (_ : external ∈ document.externals) =>
      (readExternal_line external).trans (congrArg some (id_eq external).symm)
    rwa [List.map_id] at read
  have properties : (document.properties.map fun property => property.line.toList).mapM readProperty =
      some (document.properties.map fun property => (property.name, property.value.render)) :=
    mapM_map_eq_some fun property member => readProperty_line (safe.names property member).2.2
  have stop : ∀ rest : List (List Char), List.takeWhile (fun line => !line.isEmpty) ([] :: rest) = [] ∧
      List.dropWhile (fun line => !line.isEmpty) ([] :: rest) = [] :: rest := fun rest => ⟨rfl, rfl⟩
  rw [(stop _).1, (stop _).2, List.append_nil, externals, Option.bind_some]
  dsimp only
  rw [if_pos rfl, properties]
  rfl

/-- A compiled document names its properties with fixed names a reader can tell from the values. -/
theorem lineSafe_compile {compiler : Compile.Compiler} {tree : Files.Tree} {logger : Logging.Logger}
    {definition : Recipe.Definition} {compiled : Compile.Compiled}
    (succeeded : (compiler.compile tree logger definition).1.1 = .ok compiled) : compiled.document.LineSafe := by
  obtain ⟨resultPath, entries, assembled, -, -, rfl⟩ := Compile.compile_eq_ok succeeded
  refine ⟨fun property member => ?_, fun property _ => render_newline property.value⟩
  simp only [Compile.recipeProperties, List.mem_append, List.mem_cons, List.mem_map, List.not_mem_nil,
    or_false] at member
  rcases member with named | ⟨role, fixed, rfl⟩
  · rcases named with rfl | rfl | rfl | rfl | rfl | rfl | rfl | rfl | rfl | rfl | rfl | rfl <;> (simp; decide)
  · simp only [Recipe.Role.fixedRoles, List.mem_cons, List.not_mem_nil, or_false] at fixed
    rcases fixed with rfl | rfl | rfl | rfl <;> (simp [Recipe.Role.field]; decide)

/-- A compiled document is its lines, and the line reader gives back everything it holds. -/
theorem render_lines_read_back :
    (∀ value : Value, '\n' ∉ value.render.toList) ∧
      (∀ (compiler : Compile.Compiler) (tree : Files.Tree) (logger : Logging.Logger)
        (definition : Recipe.Definition) (compiled : Compile.Compiled),
        (compiler.compile tree logger definition).1.1 = .ok compiled → compiled.document.LineSafe) ∧
      ∀ document : Document, document.LineSafe →
        document.render.toList.splitOn '\n' = document.lines.map String.toList ++ [[]] ∧
          document.lines.length = 4 + document.externals.length + document.properties.length ∧
          readDocument document.render = some document.reading := by
  refine ⟨render_newline, fun _ _ _ _ _ succeeded => lineSafe_compile succeeded,
    fun document safe => ⟨?_, ?_, readDocument_render safe⟩⟩
  · rw [toList_render]
    exact splitOn_newlines _ (lines_newline safe)
  · simp only [Document.lines, List.length_append, List.length_cons, List.length_nil, List.length_map]
    omega

/-- A compiler that already found a tea and a leaf. -/
def teaCompiler : Compile.Compiler :=
  { resolver :=
      { folders := Resolve.defaultFolders ".",
        found := [("tea", "res://resources/potions/tea.tres"), ("leaf", "res://resources/items/leaf.tres")] },
    options := Compile.defaultOptions }

/-- A tea brewed from one leaf. -/
def leafTea : Recipe.Definition :=
  { id := "leaf_tea", displayName := "Leaf Tea", result := "tea", resultCount := 1, tier := 1,
    requiredAlchemyLevel := 0, basePotency := 0, potencyPerLevel := 0, xpReward := 2,
    baseLiquid := some ⟨"leaf", 1, "base"⟩, primaryIngredient := none, secondaryIngredient := none,
    catalyst := none, additional := [] }

/-- A document with a name that ends in the separator's first half, a text holding the separator
and a newline, and an external resource whose fields hold a quote, a backslash and a newline. -/
def separatorDocument : Document :=
  { kind := "Resource", scriptClass := "", loadSteps := -3,
    externals := [⟨"T\"x", "p\\q\n", 0⟩],
    properties := [⟨"a =", .integer 1⟩, ⟨"note", .text "x = y\n"⟩] }

theorem render_lines_read_back_separatorDocument :
    (∃ compiled, (teaCompiler.compile {} (Logging.makeLogger "info" "text") leafTea).1.1 = .ok compiled ∧
      compiled.document.LineSafe) ∧
      separatorDocument.LineSafe ∧
      separatorDocument.render.toList.splitOn '\n' = separatorDocument.lines.map String.toList ++ [[]] ∧
      separatorDocument.lines.length = 7 ∧
      readDocument separatorDocument.render = some separatorDocument.reading := by
  obtain ⟨values, compiledSafe, readBack⟩ := render_lines_read_back
  obtain ⟨compiled, succeeded⟩ := Compile.exists_ok_of_isOk
    (show (teaCompiler.compile {} (Logging.makeLogger "info" "text") leafTea).1.1.isOk = true by decide +kernel)
  have safe : separatorDocument.LineSafe := by
    refine ⟨fun property member => ?_, fun property _ => values property.value⟩
    simp only [separatorDocument, List.mem_cons, List.not_mem_nil, or_false] at member
    rcases member with rfl | rfl <;> (simp; decide)
  obtain ⟨lines, count, read⟩ := readBack separatorDocument safe
  exact ⟨⟨compiled, succeeded, compiledSafe _ _ _ _ _ succeeded⟩, safe, lines, count, read⟩

end Alembic.Resource
