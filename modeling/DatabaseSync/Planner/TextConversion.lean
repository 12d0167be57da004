import DatabaseSync.ChangeEvent.BitString
import DatabaseSync.ChangeEvent.DecimalPlan
import DatabaseSync.ChangeEvent.NormalizedJson
import DatabaseSync.Library.Utf8
import DatabaseSync.Planner.TextBinding

/-! # Converting values to text

What a saved plan does with a value, told apart by its range kind, its conversion kind and its
value strategy. Texts, JSON documents, bit strings and decimals are written out, the rules of the
other families are parameters.
-/

namespace DatabaseSync.Planner

open ChangeEvent Checked Machine Text

/-! ## Texts -/

/-- The characters of the bytes. A text that comes with bytes of UTF-8 has to agree with them. -/
def decodeSupportedText (charset : String) (bytes : List UInt8) (declaredText : Option String) :
    Except String String :=
  let name := toAsciiLowercase charset
  if name = "utf8" ∨ name = "utf8mb4" ∨ name = "utf-8" then
    match fromUtf8 bytes with
    | none => .error "target_capability.text_encoding_invalid"
    | some text =>
      if declaredText.all (· == text) then .ok text
      else .error "target_capability.text_encoding_invalid"
  else if name = "ascii" then
    if bytes.any (0x7f < ·) then .error "target_capability.text_encoding_invalid"
    else .ok (String.ofList (bytes.map fun b => Char.ofNat b.toNat))
  else if name = "latin1" ∨ name = "iso-8859-1" then
    .ok (String.ofList (bytes.map fun b => Char.ofNat b.toNat))
  else .error "target_capability.text_charset_unsupported"

/-- The length of a converted text, in bytes or in characters. -/
def measuredLength (encoded : List UInt8) (decoded : String) : String → Option ℕ
  | "bytes" => some encoded.length
  | "characters" => some decoded.toList.length
  | _ => none

section Text

variable (plan : ChangeEvent.ColumnConversionPlan)

def requiredTextParameter (name : String) : Except TargetCapabilityFailure String :=
  plan.needs ((plan.target.parameters.lookup name).filter (!·.isEmpty))
    "target_capability.text_parameter_missing" ("text parameter " ++ name ++ " is missing")

/-- The declared length, unless the target is unbounded. -/
def textLengthLimit : Except TargetCapabilityFailure (Option ℕ) := do
  let targetLength ← plan.needs (plan.target.parameters.lookup "target_length")
    "target_capability.text_length_missing" "the target text length is missing"
  if eqIgnoreAsciiCase targetLength "unbounded" then return none
  else
    let length ← plan.needs (parseU64 targetLength) "target_capability.text_length_invalid"
      "the target text length is invalid"
    return some length

def validateTextPlanValue (value : LogicalValue) : Except TargetCapabilityFailure Unit :=
  match value with
  | .text charset bytesBase64url text => do
    let bytes ← plan.needs (Base64.decode bytesBase64url) "target_capability.text_encoding_invalid"
      "the captured text bytes are not valid base64url"
    let decoded ← (decodeSupportedText charset bytes text).mapError fun code =>
      plan.failure code "the captured text cannot be decoded with its source charset"
    let targetCharset ← requiredTextParameter plan "target_charset"
    let encoded ← (encodeSupportedText targetCharset decoded).mapError fun code =>
      plan.failure code "the text contains characters that the target charset cannot represent"
    let length ← textLengthLimit plan
    let unit ← plan.needs (plan.target.parameters.lookup "target_length_unit")
      "target_capability.text_length_unit_missing" "the target text length unit is missing"
    let actual ← plan.needs (measuredLength encoded decoded unit)
      "target_capability.text_length_unit_invalid" "the target text length unit is invalid"
    plan.check (length.all (actual ≤ ·)) "target_capability.text_length_overflow"
      "the text exceeds the configured target length; truncation is disabled"
    plan.check (plan.parameters.lookup "encoding_policy" == some "strict" &&
        plan.parameters.lookup "length_policy" == some "reject" &&
        plan.parameters.lookup "collation_policy" == some "target")
      "target_capability.text_policy_missing"
      ("text conversion must use strict encoding, rejection on overflow, and the saved target " ++
        "collation")
  | _ => .error (plan.failure "target_capability.text_type_mismatch"
      "the captured value is not text")

def convertTextValue (value : LogicalValue) : Except TargetCapabilityFailure LogicalValue :=
  match value with
  | .text charset bytesBase64url text => do
    let bytes ← plan.needs (Base64.decode bytesBase64url) "target_capability.text_encoding_invalid"
      "the captured text bytes are not valid base64url"
    let decoded ← (decodeSupportedText charset bytes text).mapError fun code =>
      plan.failure code "the captured text cannot be decoded"
    let targetCharset ← requiredTextParameter plan "target_charset"
    let encoded ← (encodeSupportedText targetCharset decoded).mapError fun code =>
      plan.failure code "the target charset cannot represent the text"
    return .text targetCharset (Base64.encode encoded) (some decoded)
  | _ => .error (plan.failure "target_capability.text_type_mismatch"
      "the captured value is not text")

end Text

/-! ## JSON documents -/

/-- What the rules of other modules and of the standard library say. -/
structure ValueRules where
  debug : String → String
  validateCarrier : ChangeEvent.ColumnConversionPlan → LogicalValue →
    Except TargetCapabilityFailure Unit
  validateInteger : ChangeEvent.ColumnConversionPlan → LogicalValue →
    Except TargetCapabilityFailure Unit
  validateFloat : ChangeEvent.ColumnConversionPlan → LogicalValue →
    Except TargetCapabilityFailure Unit
  validateBinary : ChangeEvent.ColumnConversionPlan → LogicalValue →
    Except TargetCapabilityFailure Unit
  validateSpatial : ChangeEvent.ColumnConversionPlan → LogicalValue →
    Except TargetCapabilityFailure Unit
  validateRecursive : ChangeEvent.ColumnConversionPlan → LogicalValue →
    Except TargetCapabilityFailure Unit
  validateEnumSet : ChangeEvent.ColumnConversionPlan → LogicalValue →
    Except TargetCapabilityFailure Unit
  validateTemporal : ChangeEvent.ColumnConversionPlan → LogicalValue →
    Except TargetCapabilityFailure Unit
  convertBinary : ChangeEvent.ColumnConversionPlan → LogicalValue →
    Except TargetCapabilityFailure LogicalValue
  convertEnumSet : ChangeEvent.ColumnConversionPlan → LogicalValue →
    Except TargetCapabilityFailure LogicalValue
  convertTemporal : ChangeEvent.ColumnConversionPlan → LogicalValue →
    Except (Fault TargetCapabilityFailure) LogicalValue

section Rules

variable (rules : ValueRules) (serde : SerdeJson) (plan : ChangeEvent.ColumnConversionPlan)

/-- The length of the text is not looked at, here or in the conversion. -/
def validateJsonPlanValue (value : LogicalValue) : Except TargetCapabilityFailure Unit :=
  match value with
  | .json value =>
    match plan.parameter "json_strategy" with
    | some "normalized_text" =>
      match renderNormalizedJson serde value with
      | .ok _ => .ok ()
      | .error message =>
        .error (plan.failure "target_capability.json_normalization_failed" message)
    | some "raw_text" => .error (plan.failure "target_capability.json_raw_text_unavailable"
        ("the ChangeEvent does not retain source JSON spelling, whitespace, duplicate keys, or " ++
          "object-key order"))
    | some "structured" | none => .ok ()
    | some other => .error (plan.failure "target_capability.json_strategy_invalid"
        ("unknown JSON representation strategy " ++ rules.debug other))
  | _ => .error (plan.failure "target_capability.json_type_mismatch"
      "the JSON conversion plan received a non-JSON value")

def convertJsonValue (value : LogicalValue) : Except TargetCapabilityFailure LogicalValue :=
  match value with
  | .json value => do
    let strategy := (plan.parameter "json_strategy").getD "structured"
    plan.check (strategy != "raw_text") "target_capability.json_raw_text_unavailable"
      "raw source JSON text is not retained by the ChangeEvent contract"
    plan.check (strategy == "normalized_text") "target_capability.json_strategy_invalid"
      "only normalized_text is valid for a JSON-to-text conversion plan"
    let normalized ← (renderNormalizedJson serde value).mapError fun message =>
      plan.failure "target_capability.json_normalization_failed" message
    let targetCharset ← requiredTextParameter plan "target_charset"
    let encoded ← (encodeSupportedText targetCharset normalized).mapError fun code =>
      plan.failure code "the normalized JSON cannot be represented by the target charset"
    return .text targetCharset (Base64.encode encoded) (some normalized)
  | _ => .error (plan.failure "target_capability.json_type_mismatch"
      "the JSON conversion plan received a non-JSON value")

/-! ## The rule of a plan -/

/-- `validate_decimal_special_value`: whether the value is one that the target declares. -/
def acceptsSpecialValue : LogicalValue → Except TargetCapabilityFailure Bool
  | .decimal unscaled scale => validateDecimalSpecialValue plan unscaled scale
  | _ => .ok false

/-- The plan has neither a range kind nor a conversion kind. -/
def validateStrategyValue (value : LogicalValue) : Except TargetCapabilityFailure Unit :=
  match plan.target.parameters.lookup "value_strategy" with
  | some "structured_json" =>
    match value with
    | .json _ => .ok ()
    | _ => .error (plan.failure "target_capability.json_type_mismatch"
        "the structured JSON plan received a non-JSON value")
  | some "enum_label" | some "set_members" => rules.validateEnumSet plan value
  | some "binary" => rules.validateBinary plan value
  | some "bit_string" => validateBitStringPlanValue plan value
  | some "spatial" => rules.validateSpatial plan value
  | some "recursive" => rules.validateRecursive plan value
  | some other => .error (plan.failure "target_capability.unknown_value_strategy"
      ("unknown value strategy " ++ rules.debug other))
  | none => .ok ()

/-- The plan has no range kind. -/
def validateConversionValue (value : LogicalValue) : Except TargetCapabilityFailure Unit :=
  match plan.conversionKind with
  | some "binary" => rules.validateBinary plan value
  | some "bit_string" => validateBitStringPlanValue plan value
  | some "spatial" => rules.validateSpatial plan value
  | some "recursive" => rules.validateRecursive plan value
  | some "text" => validateTextPlanValue plan value
  | some "json" => validateJsonPlanValue rules serde plan value
  | some "enum" | some "set" => rules.validateEnumSet plan value
  | some "temporal" => rules.validateTemporal plan value
  | some other => .error (plan.failure "target_capability.unknown_conversion_rule"
      ("unknown explicit conversion rule " ++ rules.debug other))
  | none => validateStrategyValue rules plan value

/-- The checks after those on the carriers. -/
def validateRangeValue (value : LogicalValue) : Except TargetCapabilityFailure Unit := do
  let rangeKind := plan.target.parameters.lookup "range_kind"
  plan.check (rangeKind.isNone || plan.target.parameters.lookup "range_check" == some "strict")
    "target_capability.range_check_missing"
    "the saved plan does not require a strict range check"
  plan.check (!(rangeKind == some "decimal" || rangeKind == some "float") ||
      plan.target.parameters.lookup "rounding_mode" == some "reject")
    "target_capability.rounding_policy_missing"
    "the saved plan does not reject implicit rounding"
  let special ← if rangeKind = some "decimal" then .ok false else acceptsSpecialValue plan value
  if special then .ok ()
  else match rangeKind with
    | some "integer" => rules.validateInteger plan value
    | some "decimal" => validateDecimalPlanValue plan value
    | some "float" => rules.validateFloat plan value
    | some other => .error (plan.failure "target_capability.unknown_range_rule"
        ("unknown range rule " ++ rules.debug other))
    | none => validateConversionValue rules serde plan value

def validateValueAgainstPlan (value : LogicalValue) : Except TargetCapabilityFailure Unit :=
  match plan.conversionKind with
  | some "logical_value_json" => rules.validateCarrier plan value
  | some "source_representation" => .error (plan.failure
      "target_capability.source_representation_value_mismatch"
      ("a protocol-only carrier plan accepts Source Representation Envelopes, not " ++
        "LogicalValues"))
  | _ => validateRangeValue rules serde plan value

/-- A value whose plan has no rule for it is taken over as it is. -/
def convertValueWithPlan (value : LogicalValue) :
    Except (Fault TargetCapabilityFailure) LogicalValue := do
  refusing (validateValueAgainstPlan rules serde plan value)
  match plan.conversionKind with
  | some "binary" => refusing (rules.convertBinary plan value)
  | some "bit_string" => convertBitStringValue plan value
  | some "spatial" | some "recursive" => return value
  | some "text" => refusing (convertTextValue plan value)
  | some "json" => refusing (convertJsonValue serde plan value)
  | some "enum" | some "set" => refusing (rules.convertEnumSet plan value)
  | some "temporal" => rules.convertTemporal plan value
  | _ =>
    match plan.target.parameters.lookup "value_strategy" with
    | some "enum_label" | some "set_members" => refusing (rules.convertEnumSet plan value)
    | _ => return value

end Rules

end DatabaseSync.Planner
