import DatabaseSync.ChangeEvent.Json
import DatabaseSync.Library.JsonText

/-! # The wire form of a change event

The JSON tree that the model's serialisation makes of a line, field by field, and how many
containers stand inside each other in it.
-/

namespace DatabaseSync.ChangeEvent

open JsonText

/-- A variant with its tag under `type`. -/
def tagged (type : String) (fields : List (String × Json)) : Json :=
  .object (("type", .string type) :: fields)

/-- A field left out when there is no value. -/
def skipNone (name : String) (value : Option Json) : List (String × Json) :=
  value.toList.map fun value => (name, value)

def nullable (value : Option Json) : Json := value.getD .null

def natural (n : ℕ) : Json := .number n

def naturals (values : List ℕ) : Json := .array (values.map natural)
def integers (values : List ℤ) : Json := .array (values.map .number)
def strings (values : List String) : Json := .array (values.map .string)

def SourceCursor.toJson (cursor : SourceCursor) : Json :=
  .object [("format", .string cursor.format), ("value", .string cursor.value),
    ("display", .string cursor.display)]

def Source.toJson (source : Source) : Json :=
  .object [("kind", .string source.kind), ("version", .string source.version),
    ("id", .string source.id)]

def TransactionHeader.toJson (header : TransactionHeader) : Json :=
  .object [("id", .string header.id), ("sequence", .number header.sequence),
    ("begin_cursor", header.beginCursor.toJson), ("commit_cursor", header.commitCursor.toJson)]

def Operation.name : Operation → String
  | .insert => "insert"
  | .update => "update"
  | .delete => "delete"

def TemporalInfinityKind.name : TemporalInfinityKind → String
  | .date => "date"
  | .localDatetime => "local_datetime"
  | .instant => "instant"
  | .calendarInterval => "calendar_interval"

def BitOrder.name : BitOrder → String
  | .msbFirst => "msb_first"
  | .lsbFirst => "lsb_first"

def BitPadding.name : BitPadding → String
  | .none => "none"
  | .zero => "zero"
  | .one => "one"

def SpatialFormat.name : SpatialFormat → String
  | .wkb => "wkb"
  | .ewkb => "ewkb"

def SourceRepresentationFormat.name : SourceRepresentationFormat → String
  | .text => "text"
  | .binary => "binary"

def SourceRepresentationContext.toJson (context : SourceRepresentationContext) : Json :=
  .object [
    ("connector", .object [("kind", .string context.connector.kind),
      ("version", .string context.connector.version)]),
    ("server_build", .object [("product", .string context.serverBuild.product),
      ("distribution", .string context.serverBuild.distribution),
      ("version", .string context.serverBuild.version),
      ("build", .string context.serverBuild.build)]),
    ("source_type_identity", .string context.sourceTypeIdentity),
    ("source_type_definition_digest", .string context.sourceTypeDefinitionDigest),
    ("protocol", .string context.protocol),
    ("format", .string context.format.name),
    ("type_metadata", .object (context.typeMetadata.map fun entry =>
      (entry.1, .string entry.2))),
    ("source_cursor", context.sourceCursor.toJson)]

def SourceRepresentationEnvelope.toJson (envelope : SourceRepresentationEnvelope) : Json :=
  .object [("context", envelope.context.toJson), ("encoding", .string envelope.encoding),
    ("payload_base64url", .string envelope.payloadBase64url),
    ("payload_length", .number envelope.payloadLength),
    ("payload_sha256", .string envelope.payloadSha256)]

def RawValueCarrier.toJson (carrier : RawValueCarrier) : Json :=
  .object ([("codec_identity", .string carrier.codecIdentity),
    ("native_type", .string carrier.nativeType),
    ("source_definition_digest", .string carrier.sourceDefinitionDigest),
    ("encoding", .string carrier.encoding),
    ("raw_bytes_base64url", .string carrier.rawBytesBase64url)] ++
    skipNone "canonical_text" (carrier.canonicalText.map .string) ++
    skipNone "source_context" (carrier.sourceContext.map (·.toJson)) ++
    skipNone "payload_length" (carrier.payloadLength.map natural) ++
    skipNone "payload_sha256" (carrier.payloadSha256.map .string) ++
    skipNone "reversible" (carrier.reversible.map .bool))

mutual

def JsonValue.toJson : JsonValue → Json
  | .null => tagged "null" []
  | .boolean value => tagged "boolean" [("value", .bool value)]
  | .string value => tagged "string" [("value", .string value)]
  | .signedInteger value => tagged "signed_integer" [("value", .string value)]
  | .unsignedInteger value => tagged "unsigned_integer" [("value", .string value)]
  | .doubleBits value => tagged "double_bits" [("value", .string value)]
  | .decimal unscaled scale => tagged "decimal"
      [("value", .object [("unscaled", .string unscaled), ("scale", .number scale)])]
  | .array items => tagged "array" [("value", .array (JsonValue.itemsToJson items))]
  | .object entries => tagged "object" [("value", .array (JsonValue.entriesToJson entries))]

def JsonValue.itemsToJson : List JsonValue → List Json
  | [] => []
  | item :: items => item.toJson :: JsonValue.itemsToJson items

def JsonValue.entriesToJson : List (String × JsonValue) → List Json
  | [] => []
  | (key, value) :: entries =>
    .object [("key", .string key), ("value", value.toJson)] :: JsonValue.entriesToJson entries

end

mutual

def LogicalValue.toJson : LogicalValue → Json
  | .null => tagged "null" []
  | .boolean value => tagged "boolean" [("value", .bool value)]
  | .uuid value => tagged "uuid" [("value", .string value)]
  | .integer signed bits value => tagged "integer"
      [("signed", .bool signed), ("bits", .number bits), ("value", .string value)]
  | .decimal unscaled scale => tagged "decimal"
      [("unscaled", .string unscaled), ("scale", .number scale)]
  | .float bits ieee754Hex => tagged "float"
      [("bits", .number bits), ("ieee754_hex", .string ieee754Hex)]
  | .text charset bytesBase64url content => tagged "text"
      ([("charset", .string charset), ("bytes_base64url", .string bytesBase64url)] ++
        skipNone "text" (content.map .string))
  | .binary bytesBase64url => tagged "binary" [("bytes_base64url", .string bytesBase64url)]
  | .bitString bytesBase64url bitLength padding bitOrder => tagged "bit_string"
      [("bytes_base64url", .string bytesBase64url), ("bit_length", .number bitLength),
        ("padding", .string padding.name), ("bit_order", .string bitOrder.name)]
  | .date y month day => tagged "date"
      [("year", .number y), ("month", .number month), ("day", .number day)]
  | .localTime hour minute second microsecond => tagged "local_time"
      [("hour", .number hour), ("minute", .number minute), ("second", .number second),
        ("microsecond", .number microsecond)]
  | .offsetTime hour minute second microsecond offsetSeconds => tagged "offset_time"
      [("hour", .number hour), ("minute", .number minute), ("second", .number second),
        ("microsecond", .number microsecond), ("offset_seconds", .number offsetSeconds)]
  | .localDatetime y month day hour minute second microsecond => tagged "local_datetime"
      [("year", .number y), ("month", .number month), ("day", .number day),
        ("hour", .number hour), ("minute", .number minute), ("second", .number second),
        ("microsecond", .number microsecond)]
  | .duration negative hours minutes seconds microsecond => tagged "duration"
      [("negative", .bool negative), ("hours", .number hours), ("minutes", .number minutes),
        ("seconds", .number seconds), ("microsecond", .number microsecond)]
  | .calendarInterval months days microseconds => tagged "calendar_interval"
      [("months", .number months), ("days", .number days), ("microseconds", .number microseconds)]
  | .instant unixSeconds nanoseconds => tagged "instant"
      [("unix_seconds", .string unixSeconds), ("nanoseconds", .number nanoseconds)]
  | .year value => tagged "year" [("value", .number value)]
  | .temporalInfinity kind negative => tagged "temporal_infinity"
      [("kind", .string kind.name), ("negative", .bool negative)]
  | .enum label => tagged "enum" [("label", .string label)]
  | .set members => tagged "set" [("members", strings members)]
  | .spatial format bytesBase64url geometryType dimensions srid crs => tagged "spatial"
      [("format", .string format.name), ("bytes_base64url", .string bytesBase64url),
        ("geometry_type", .string geometryType), ("dimensions", .number dimensions),
        ("srid", nullable (srid.map .number)), ("crs", nullable (crs.map .string))]
  | .array elements => tagged "array" [("elements", .array (LogicalValue.valuesToJson elements))]
  | .struct fields => tagged "struct" [("fields", .array (LogicalValue.fieldsToJson fields))]
  | .map entries => tagged "map" [("entries", .array (LogicalValue.entriesToJson entries))]
  | .range empty lower upper lowerInclusive upperInclusive => tagged "range"
      [("empty", .bool empty), ("lower", LogicalValue.boundToJson lower),
        ("upper", LogicalValue.boundToJson upper), ("lower_inclusive", .bool lowerInclusive),
        ("upper_inclusive", .bool upperInclusive)]
  | .multiRange ranges => tagged "multi_range"
      [("ranges", .array (LogicalValue.valuesToJson ranges))]
  | .arrayWithMetadata elements dimensions lowerBounds dimensionLengths =>
    tagged "array_with_metadata"
      ([("elements", .array (LogicalValue.valuesToJson elements)),
        ("dimensions", .number dimensions), ("lower_bounds", integers lowerBounds)] ++
        skipNone "dimension_lengths"
          (if dimensionLengths.isEmpty then none else some (naturals dimensionLengths)))
  | .invalidTemporal kind spelling => tagged "invalid_temporal"
      [("kind", .string kind), ("raw", .string spelling)]
  | .network family address prefixLength => tagged "network"
      ([("family", .string family), ("address", .string address)] ++
        skipNone "prefix_length" (prefixLength.map natural))
  | .xml bytesBase64url content => tagged "xml"
      (("bytes_base64url", .string bytesBase64url) :: skipNone "text" (content.map .string))
  | .domain value => tagged "domain" [("value", value.toJson)]
  | .raw carrier => tagged "raw" [("carrier", carrier.toJson)]
  | .json value => tagged "json" [("value", value.toJson)]

def LogicalValue.valuesToJson : List LogicalValue → List Json
  | [] => []
  | value :: values => value.toJson :: LogicalValue.valuesToJson values

def LogicalValue.fieldsToJson : List (String × LogicalValue) → List Json
  | [] => []
  | (name, value) :: fields =>
    .object [("name", .string name), ("value", value.toJson)] :: LogicalValue.fieldsToJson fields

def LogicalValue.entriesToJson : List (LogicalValue × LogicalValue) → List Json
  | [] => []
  | (key, value) :: entries =>
    .object [("key", key.toJson), ("value", value.toJson)] :: LogicalValue.entriesToJson entries

def LogicalValue.boundToJson : Option LogicalValue → Json
  | none => .null
  | some value => value.toJson

end

/-- The presence of a column and its value, among the column's own fields. -/
def Datum.fields : Datum → List (String × Json)
  | .unavailable => [("presence", .string "unavailable")]
  | .unchanged => [("presence", .string "unchanged")]
  | .null => [("presence", .string "null")]
  | .value content => [("presence", .string "value"), ("value", content.toJson)]
  | .sourceRepresentationEnvelope envelope =>
    [("presence", .string "source_representation_envelope"), ("value", envelope.toJson)]

def ColumnDatum.toJson (column : ColumnDatum) : Json :=
  .object ([("ordinal", .number column.ordinal), ("name", .string column.name),
    ("native_type", .string column.nativeType),
    ("primary_key_ordinal", nullable (column.primaryKeyOrdinal.map natural)),
    ("generated", .bool column.generated),
    ("collation", nullable (column.collation.map .string))] ++ column.datum.fields)

def imageToJson (image : List ColumnDatum) : Json := .array (image.map (·.toJson))

def RowChange.fields (change : RowChange) : List (String × Json) :=
  skipNone "database" (change.database.map .string) ++
    [("operation", .string change.operation.name), ("schema", .string change.schema),
      ("table", .string change.table), ("source_cursor", change.sourceCursor.toJson),
      ("source_timestamp", .number change.sourceTimestamp),
      ("schema_basis", .string change.schemaBasis)] ++
    skipNone "before" (change.before.map imageToJson) ++
    skipNone "after" (change.after.map imageToJson)

def Payload.toJson : Payload → Json
  | .transactionBegin => tagged "transaction_begin" []
  | .rowChange change => tagged "row_change" change.fields
  | .transactionCommit changeCount =>
    tagged "transaction_commit" [("change_count", .number changeCount)]

def Envelope.toJson (envelope : Envelope) : Json :=
  .object [("format", .string envelope.format), ("source", envelope.source.toJson),
    ("transaction", envelope.transaction.toJson), ("payload", envelope.payload.toJson)]

/-! ## Nesting -/

mutual

/-- The containers inside each other that a JSON value takes on the wire. -/
def JsonValue.containers : JsonValue → ℕ
  | .decimal _ _ => 2
  | .array items => 2 + JsonValue.itemContainers items
  | .object entries => 2 + JsonValue.entryContainers entries
  | _ => 1

def JsonValue.itemContainers : List JsonValue → ℕ
  | [] => 0
  | item :: items => max item.containers (JsonValue.itemContainers items)

def JsonValue.entryContainers : List (String × JsonValue) → ℕ
  | [] => 0
  | (_, value) :: entries => max (1 + value.containers) (JsonValue.entryContainers entries)

end

mutual

/-- The containers inside each other that a logical value takes on the wire. -/
def LogicalValue.containers : LogicalValue → ℕ
  | .set _ => 2
  | .array elements => 2 + LogicalValue.valueContainers elements
  | .struct fields => 2 + LogicalValue.fieldContainers fields
  | .map entries => 2 + LogicalValue.entryContainers entries
  | .range _ lower upper _ _ =>
    1 + max (LogicalValue.boundContainers lower) (LogicalValue.boundContainers upper)
  | .multiRange ranges => 2 + LogicalValue.valueContainers ranges
  | .arrayWithMetadata elements _ _ _ => 2 + LogicalValue.valueContainers elements
  | .domain value => 1 + value.containers
  | .raw carrier => if carrier.sourceContext.isSome then 4 else 2
  | .json value => 1 + value.containers
  | _ => 1

def LogicalValue.valueContainers : List LogicalValue → ℕ
  | [] => 0
  | value :: values => max value.containers (LogicalValue.valueContainers values)

def LogicalValue.fieldContainers : List (String × LogicalValue) → ℕ
  | [] => 0
  | (_, value) :: fields => max (1 + value.containers) (LogicalValue.fieldContainers fields)

def LogicalValue.entryContainers : List (LogicalValue × LogicalValue) → ℕ
  | [] => 0
  | (key, value) :: entries =>
    max (1 + max key.containers value.containers) (LogicalValue.entryContainers entries)

def LogicalValue.boundContainers : Option LogicalValue → ℕ
  | none => 0
  | some value => value.containers

end

@[simp]
theorem depth_tagged (type : String) (fields : List (String × Json)) :
    (tagged type fields).depth = 1 + depthEntries fields := by
  rw [tagged, depth_object, depthEntries_cons, depth_string, Nat.zero_max]

@[simp]
theorem depthEntries_skipNone (name : String) (value : Option Json) :
    depthEntries (skipNone name value) = (value.map Json.depth).getD 0 := by
  cases value <;> simp [skipNone]

@[simp]
theorem depth_nullable (value : Option Json) :
    (nullable value).depth = (value.map Json.depth).getD 0 := by
  cases value <;> rfl

@[simp]
theorem depth_natural (n : ℕ) : (natural n).depth = 0 := rfl

@[simp]
theorem depth_naturals (values : List ℕ) : (naturals values).depth = 1 := by
  rw [naturals, depth_array, depthItems_map_eq_zero fun _ => rfl]

@[simp]
theorem depth_integers (values : List ℤ) : (integers values).depth = 1 := by
  rw [integers, depth_array, depthItems_map_eq_zero fun _ => rfl]

@[simp]
theorem depth_strings (values : List String) : (strings values).depth = 1 := by
  rw [strings, depth_array, depthItems_map_eq_zero fun _ => rfl]

@[simp]
theorem SourceCursor.depth_toJson (cursor : SourceCursor) : cursor.toJson.depth = 1 := rfl

@[simp]
theorem Source.depth_toJson (source : Source) : source.toJson.depth = 1 := rfl

@[simp]
theorem TransactionHeader.depth_toJson (header : TransactionHeader) :
    header.toJson.depth = 2 := rfl

@[simp]
theorem SourceRepresentationContext.depth_toJson (context : SourceRepresentationContext) :
    context.toJson.depth = 2 := by
  have hmetadata := @depthEntries_map_eq_zero (String × String) Prod.fst _
    (fun entry : String × String => depth_string entry.2) context.typeMetadata
  simp [SourceRepresentationContext.toJson, hmetadata]

@[simp]
theorem SourceRepresentationEnvelope.depth_toJson (envelope : SourceRepresentationEnvelope) :
    envelope.toJson.depth = 3 := by
  simp [SourceRepresentationEnvelope.toJson]

/-- The depth of an optional leaf. -/
theorem depth_leaf {α : Type} {f : α → Json} (hf : ∀ a, (f a).depth = 0) (value : Option α) :
    ((value.map f).map Json.depth).getD 0 = 0 := by
  cases value <;> simp [hf]

theorem RawValueCarrier.depth_toJson (carrier : RawValueCarrier) :
    carrier.toJson.depth = if carrier.sourceContext.isSome then 3 else 1 := by
  simp only [RawValueCarrier.toJson, depth_object, depthEntries_append, depthEntries_skipNone,
    depthEntries_cons, depthEntries_nil, depth_string, depth_leaf depth_string,
    depth_leaf depth_bool, depth_leaf depth_natural]
  cases carrier.sourceContext <;> simp

mutual

/-- A JSON value takes as many containers as its tree has. -/
theorem JsonValue.depth_toJson : ∀ value : JsonValue, value.toJson.depth = value.containers
  | .null => rfl
  | .boolean _ => rfl
  | .string _ => rfl
  | .signedInteger _ => rfl
  | .unsignedInteger _ => rfl
  | .doubleBits _ => rfl
  | .decimal _ _ => rfl
  | .array items => by
    have hitems := JsonValue.depthItems_itemsToJson items
    simp only [JsonValue.toJson, JsonValue.containers, depth_tagged, depthEntries_cons,
      depthEntries_nil, depth_array, hitems]
    omega
  | .object entries => by
    have hentries := JsonValue.depthItems_entriesToJson entries
    simp only [JsonValue.toJson, JsonValue.containers, depth_tagged, depthEntries_cons,
      depthEntries_nil, depth_array, hentries]
    omega

theorem JsonValue.depthItems_itemsToJson : ∀ items : List JsonValue,
    depthItems (JsonValue.itemsToJson items) = JsonValue.itemContainers items
  | [] => rfl
  | item :: items => by
    rw [JsonValue.itemsToJson, depthItems_cons, JsonValue.depth_toJson item,
      JsonValue.depthItems_itemsToJson items, JsonValue.itemContainers]

theorem JsonValue.depthItems_entriesToJson : ∀ entries : List (String × JsonValue),
    depthItems (JsonValue.entriesToJson entries) = JsonValue.entryContainers entries
  | [] => rfl
  | (key, value) :: entries => by
    have hvalue := JsonValue.depth_toJson value
    have hentries := JsonValue.depthItems_entriesToJson entries
    simp only [JsonValue.entriesToJson, JsonValue.entryContainers, depthItems_cons, depth_object,
      depthEntries_cons, depthEntries_nil, depth_string, hvalue, hentries]
    omega

end

mutual

/-- A logical value takes as many containers as its tree has. -/
theorem LogicalValue.depth_toJson : ∀ value : LogicalValue, value.toJson.depth = value.containers
  | .null => rfl
  | .boolean _ => rfl
  | .uuid _ => rfl
  | .integer _ _ _ => rfl
  | .decimal _ _ => rfl
  | .float _ _ => rfl
  | .text _ _ none => rfl
  | .text _ _ (some _) => rfl
  | .binary _ => rfl
  | .bitString _ _ _ _ => rfl
  | .date _ _ _ => rfl
  | .localTime _ _ _ _ => rfl
  | .offsetTime _ _ _ _ _ => rfl
  | .localDatetime _ _ _ _ _ _ _ => rfl
  | .duration _ _ _ _ _ => rfl
  | .calendarInterval _ _ _ => rfl
  | .instant _ _ => rfl
  | .year _ => rfl
  | .temporalInfinity _ _ => rfl
  | .enum _ => rfl
  | .set members => by
    simp [LogicalValue.toJson, LogicalValue.containers]
  | .spatial _ _ _ _ srid crs => by
    simp only [LogicalValue.toJson, LogicalValue.containers, depth_tagged, depthEntries_cons,
      depthEntries_nil, depth_string, depth_number, depth_nullable, depth_leaf depth_string,
      depth_leaf depth_number]
    rfl
  | .array elements => by
    have helements := LogicalValue.depthItems_valuesToJson elements
    simp only [LogicalValue.toJson, LogicalValue.containers, depth_tagged, depthEntries_cons,
      depthEntries_nil, depth_array, helements]
    omega
  | .struct fields => by
    have hfields := LogicalValue.depthItems_fieldsToJson fields
    simp only [LogicalValue.toJson, LogicalValue.containers, depth_tagged, depthEntries_cons,
      depthEntries_nil, depth_array, hfields]
    omega
  | .map entries => by
    have hentries := LogicalValue.depthItems_entriesToJson entries
    simp only [LogicalValue.toJson, LogicalValue.containers, depth_tagged, depthEntries_cons,
      depthEntries_nil, depth_array, hentries]
    omega
  | .range _ lower upper _ _ => by
    have hlower := LogicalValue.depth_boundToJson lower
    have hupper := LogicalValue.depth_boundToJson upper
    simp only [LogicalValue.toJson, LogicalValue.containers, depth_tagged, depthEntries_cons,
      depthEntries_nil, depth_bool, hlower, hupper]
    omega
  | .multiRange ranges => by
    have hranges := LogicalValue.depthItems_valuesToJson ranges
    simp only [LogicalValue.toJson, LogicalValue.containers, depth_tagged, depthEntries_cons,
      depthEntries_nil, depth_array, hranges]
    omega
  | .arrayWithMetadata elements dimensions lowerBounds dimensionLengths => by
    have helements := LogicalValue.depthItems_valuesToJson elements
    simp only [LogicalValue.toJson, LogicalValue.containers, depth_tagged, depthEntries_append,
      depthEntries_cons, depthEntries_nil, depth_array, depth_number, depth_integers,
      depthEntries_skipNone, helements]
    split <;> simp <;> omega
  | .invalidTemporal _ _ => rfl
  | .network _ _ none => rfl
  | .network _ _ (some _) => rfl
  | .xml _ none => rfl
  | .xml _ (some _) => rfl
  | .domain value => by
    have hvalue := LogicalValue.depth_toJson value
    simp only [LogicalValue.toJson, LogicalValue.containers, depth_tagged, depthEntries_cons,
      depthEntries_nil, hvalue]
    omega
  | .raw carrier => by
    simp only [LogicalValue.toJson, LogicalValue.containers, depth_tagged, depthEntries_cons,
      depthEntries_nil, carrier.depth_toJson]
    split <;> omega
  | .json value => by
    simp only [LogicalValue.toJson, LogicalValue.containers, depth_tagged, depthEntries_cons,
      depthEntries_nil, value.depth_toJson]
    omega

theorem LogicalValue.depthItems_valuesToJson : ∀ values : List LogicalValue,
    depthItems (LogicalValue.valuesToJson values) = LogicalValue.valueContainers values
  | [] => rfl
  | value :: values => by
    rw [LogicalValue.valuesToJson, depthItems_cons, LogicalValue.depth_toJson value,
      LogicalValue.depthItems_valuesToJson values, LogicalValue.valueContainers]

theorem LogicalValue.depthItems_fieldsToJson : ∀ fields : List (String × LogicalValue),
    depthItems (LogicalValue.fieldsToJson fields) = LogicalValue.fieldContainers fields
  | [] => rfl
  | (name, value) :: fields => by
    have hvalue := LogicalValue.depth_toJson value
    have hfields := LogicalValue.depthItems_fieldsToJson fields
    simp only [LogicalValue.fieldsToJson, LogicalValue.fieldContainers, depthItems_cons,
      depth_object, depthEntries_cons, depthEntries_nil, depth_string, hvalue, hfields]
    omega

theorem LogicalValue.depthItems_entriesToJson : ∀ entries : List (LogicalValue × LogicalValue),
    depthItems (LogicalValue.entriesToJson entries) = LogicalValue.entryContainers entries
  | [] => rfl
  | (key, value) :: entries => by
    have hkey := LogicalValue.depth_toJson key
    have hvalue := LogicalValue.depth_toJson value
    have hentries := LogicalValue.depthItems_entriesToJson entries
    simp only [LogicalValue.entriesToJson, LogicalValue.entryContainers, depthItems_cons,
      depth_object, depthEntries_cons, depthEntries_nil, hkey, hvalue, hentries]
    omega

theorem LogicalValue.depth_boundToJson : ∀ bound : Option LogicalValue,
    (LogicalValue.boundToJson bound).depth = LogicalValue.boundContainers bound
  | none => rfl
  | some value => LogicalValue.depth_toJson value

end

end DatabaseSync.ChangeEvent
