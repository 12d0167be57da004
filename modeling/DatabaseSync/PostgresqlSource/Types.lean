import DatabaseSync.ChangeEvent.BitString
import DatabaseSync.PostgresqlSource.Decoder

/-! # Values of PostgreSQL types

The text output of a PostgreSQL type is decoded into a logical value.
-/

namespace DatabaseSync.PostgresqlSource

open ChangeEvent Text

def bitString (text : String) : Except PgError LogicalValue :=
  if text.isEmpty || !text.toList.all fun c => c == '0' || c == '1' then
    .error (.invalid "invalid PostgreSQL bit string")
  else
    let bitLength := text.toList.length
    let bytes := writeBits (List.replicate ((bitLength + 7) / 8) 0) .msbFirst
      (fun index => text.toList.getD index '0' == '1') bitLength
    .ok (.bitString (Base64.encode bytes) bitLength (zeroPadding bitLength) .msbFirst)

end DatabaseSync.PostgresqlSource
