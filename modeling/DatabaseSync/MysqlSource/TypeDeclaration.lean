import DatabaseSync.Library.QuotedLabels
import Mathlib.Data.List.Nodup

/-! # Column type declarations

The text that the catalog gives for the type of a column is split into a base, arguments and
modifiers. The arguments of `ENUM` and `SET` are quoted labels, in the escapes of the server.
-/

namespace DatabaseSync.MysqlSource

open Checked QuotedLabels Text

/-! ## The parser -/

structure SourceTypeMappingError where
  code : String
  message : String
deriving DecidableEq, Repr

namespace SourceTypeMappingError

def invalid (message : String) : SourceTypeMappingError :=
  ⟨"mysql57.source_type.invalid_declaration", message⟩

end SourceTypeMappingError

structure NativeDeclaration where
  base : String
  arguments : List String
  modifiers : List String
deriving DecidableEq, Repr

/-- The escapes and errors of `parse_quoted_members` -/
def quotedMembers : Dialect SourceTypeMappingError where
  unescape
    | '0' => '\x00'
    | 'b' => '\x08'
    | 'n' => '\n'
    | 'r' => '\r'
    | 't' => '\t'
    | 'Z' => '\x1a'
    | other => other
  unquoted := .invalid "ENUM/SET members must use single-quoted labels"
  dangling := .invalid "ENUM/SET label has a dangling escape"
  badLabel := .invalid "ENUM/SET label is empty, unterminated, or contains NUL"
  repeated := .invalid "ENUM/SET labels must be unique"
  unseparated := .invalid "ENUM/SET members must be comma separated"
  noLabel := .invalid "ENUM/SET requires at least one member"

def parseQuotedMembers (value : String) : Except SourceTypeMappingError (List String) := do
  return (← parseLabels quotedMembers value.toList).map String.ofList

/-- `str::split_whitespace` -/
def splitWhitespace (s : String) : List String :=
  ((s.toList.splitOnP isWhitespace).filter (· ≠ [])).map String.ofList

/-- The base, the arguments and what follows them, where the arguments are no quoted labels. -/
def parseArguments (value : String) :
    Except SourceTypeMappingError (String × List String × String) :=
  match splitOnce value '(' with
  | none => .ok (value, [], "")
  | some (head, rest) =>
    match rsplitOnce rest ')' with
    | none => .error (.invalid "native type arguments are unclosed")
    | some (arguments, tail) =>
      if '(' ∈ tail.toList ∨ ')' ∈ head.toList then
        .error (.invalid "native type declaration has misplaced parentheses")
      else .ok (head, (split arguments ',').map trim, tail)

/-- `parse_declaration`. A closing bracket after the opening one is looked for behind it. -/
def parseDeclaration (nativeType : String) : Except SourceTypeMappingError NativeDeclaration :=
  let raw := trim nativeType
  let value := toAsciiLowercase raw
  if value.isEmpty then .error (.invalid "native type declaration is empty")
  else
    let rawHead := (splitOnce raw '(').elim raw Prod.fst
    let rawBase := toAsciiLowercase ((splitWhitespace rawHead).headD "")
    if rawBase = "enum" ∨ rawBase = "set" then
      match splitOnce raw '(' with
      | none => .error (.invalid (rawBase ++ " requires quoted members"))
      | some (head, rest) =>
        match rsplitOnce rest ')' with
        | none => .error (.invalid "ENUM/SET member list is unclosed")
        | some (members, tail) =>
          if ¬ isBlank tail ∨ ')' ∈ head.toList then
            .error (.invalid "ENUM/SET declaration has misplaced characters")
          else do
            return ⟨rawBase, ← parseQuotedMembers members,
              (splitWhitespace rawHead).tail.map toAsciiLowercase⟩
    else do
      let (head, arguments, tail) ← parseArguments value
      match splitWhitespace head with
      | [] => throw (.invalid "native type has no base name")
      | base :: words =>
        if arguments.any String.isEmpty then
          throw (.invalid "native type contains an empty argument")
        return ⟨base, arguments, words ++ splitWhitespace tail⟩

/-! ## Quoting -/

/-- What the server writes for a character of a label. -/
def appendUnescaped : Char → List Char
  | '\x00' => ['\\', '0']
  | '\n' => ['\\', 'n']
  | '\r' => ['\\', 'r']
  | '\\' => ['\\', '\\']
  | '\'' => ['\'', '\'']
  | c => [c]

/-- The type text of a column with the given labels. -/
def columnType (base : String) (labels : List String) : String :=
  base ++ "(" ++ String.ofList
    ([','].intercalate (labels.map fun label => quoted appendUnescaped label.toList)) ++ ")"

/-- The text ends in a comma, up to spaces. -/
def EndsWithComma (text : String) : Prop :=
  ∃ before after, text.toList = before ++ ',' :: after ∧ Spaces after

/-- Quoted labels with a comma between each two of them. -/
def QuotedSequence (text : String) (labels : List String) : Prop :=
  Sequence quotedMembers text.toList (labels.map String.toList)

section

variable {labels : List String} {base text : String}

theorem labelText_appendUnescaped (label : List Char) :
    LabelText quotedMembers (label.flatMap appendUnescaped) label := by
  apply labelText_flatMap
  intro c _ text rest h
  unfold appendUnescaped
  split
  · exact .escape '0' h
  · exact .escape 'n' h
  · exact .escape 'r' h
  · exact .escape '\\' h
  · exact .quote h
  · next hnul hnewline hreturn hescape hquote => exact .plain hescape hquote h

/-- The quoted labels are read back. -/
theorem parseQuotedMembers_quoted (hne : labels ≠ []) (hdistinct : labels.Nodup)
    (hlabels : ∀ label ∈ labels, label ≠ "" ∧ '\x00' ∉ label.toList) :
    parseQuotedMembers (String.ofList
      ([','].intercalate (labels.map fun label => quoted appendUnescaped label.toList))) =
      .ok labels := by
  have hwrite : ∀ label ∈ labels.map String.toList,
      LabelText quotedMembers (label.flatMap appendUnescaped) label :=
    fun label _ => labelText_appendUnescaped label
  have hsequence := sequence_quoted (by simpa using hne) hwrite
  rw [List.map_map] at hsequence
  have hread := parseLabels_eq_ok.mpr ⟨.inl hsequence, ?_, ?_⟩
  · rw [parseQuotedMembers, String.toList_ofList]
    change (parseLabels quotedMembers ([','].intercalate (labels.map (quoted appendUnescaped ∘
      String.toList))) >>= _) = _
    rw [hread, ok_bind, List.map_map, pure_eq]
    simp
  · intro chars hchars
    obtain ⟨label, hlabel, rfl⟩ := List.mem_map.mp hchars
    obtain ⟨hempty, hnul⟩ := hlabels label hlabel
    exact ⟨by simpa using hempty, hnul⟩
  · exact List.Nodup.map (fun a b hab => String.toList_inj.mp hab) hdistinct

/-- The declaration of quoted labels is read up to its last bracket. -/
theorem parseDeclaration_brackets {members : List Char} (hbase : base = "enum" ∨ base = "set") :
    parseDeclaration (base ++ "(" ++ String.ofList members ++ ")") =
      (parseQuotedMembers (String.ofList members)).map fun labels => ⟨base, labels, []⟩ := by
  have htext : base ++ "(" ++ String.ofList members ++ ")" = bracketed base.toList members := by
    rw [← String.toList_inj]
    simp [String.toList_append]
  rw [htext]
  generalize hbracketed : bracketed base.toList members = text
  have hends : trim text = text := by
    rw [← hbracketed]
    rcases hbase with rfl | rfl
    · exact @trim_bracketed "num".toList members 'e' rfl
    · exact @trim_bracketed "et".toList members 's' rfl
  have hopen : splitOnce text '(' = some (base, String.ofList (members ++ [')'])) := by
    rw [← hbracketed, splitOnce_bracketed, String.ofList_toList]
    rcases hbase with rfl | rfl <;> decide
  have hempty : (toAsciiLowercase text).isEmpty = false := by
    rw [String.isEmpty_eq_false_iff, ne_eq, ← String.toList_eq_nil_iff, toAsciiLowercase,
      String.toList_ofList, ← hbracketed, toList_bracketed]
    simp
  have hwords : splitWhitespace base = [base] ∧ toAsciiLowercase base = base ∧
      ')' ∉ base.toList := by
    rcases hbase with rfl | rfl
    · exact ⟨rfl, rfl, by decide⟩
    · exact ⟨rfl, rfl, by decide⟩
  obtain ⟨hsplit, hlower, hbracket⟩ := hwords
  have hblank : isBlank "" = true := rfl
  unfold parseDeclaration
  simp only [hends, hempty, hopen, rsplitOnce_bracketed, Option.elim_some, hsplit, List.headD_cons,
    hlower, hbase, hblank, hbracket, Bool.false_eq_true, not_true_eq_false, or_self, if_true,
    if_false, List.tail_cons, List.map_nil]
  cases parseQuotedMembers (String.ofList members) with
  | error e => rfl
  | ok labels => rfl

/-- The labels that a column declares are read back in their order, and a text of labels that is
accepted is a sequence of quoted labels, unless it ends in a comma. -/
theorem declared_labels :
    (∀ (base : String) (labels : List String), base = "enum" ∨ base = "set" → labels ≠ [] →
      labels.Nodup → (∀ label ∈ labels, label ≠ "" ∧ '\x00' ∉ label.toList) →
        parseDeclaration (columnType base labels) = .ok ⟨base, labels, []⟩) ∧
    ∀ (text : String) (labels : List String), parseQuotedMembers text = .ok labels →
      EndsWithComma text ∨ QuotedSequence text labels := by
  constructor
  · intro base labels hbase hne hdistinct hlabels
    rw [columnType, parseDeclaration_brackets hbase,
      parseQuotedMembers_quoted hne hdistinct hlabels]
    rfl
  · intro text labels h
    obtain ⟨read, hread, hlabels⟩ := bind_eq_ok.mp h
    obtain rfl := Except.ok.inj hlabels
    obtain ⟨hsequence | ⟨before, after, htext, -, hspaces⟩, -, -⟩ := parseLabels_eq_ok.mp hread
    · refine .inr ?_
      rw [QuotedSequence, List.map_map]
      simpa using hsequence
    · exact .inl ⟨before, after, htext, hspaces⟩

theorem declared_labels_comma :
    parseDeclaration (columnType "set" ["a,b", "it's (\\)"]) =
      .ok ⟨"set", ["a,b", "it's (\\)"], []⟩ :=
  declared_labels.1 _ _ (.inr rfl) (by simp) (by simp) (by simp)

end

/-- An empty label is refused, although its quoted text declares it, and a comma at the end is
accepted. -/
theorem empty_label_refused :
    columnType "enum" ["", "a"] = "enum('','a')" ∧
      parseDeclaration "enum('','a')" =
        .error (.invalid "ENUM/SET label is empty, unterminated, or contains NUL") ∧
      parseDeclaration "enum('a',)" = .ok ⟨"enum", ["a"], []⟩ := by
  refine ⟨by decide +kernel, ?_, ?_⟩
  · rfl
  · rfl

end DatabaseSync.MysqlSource
