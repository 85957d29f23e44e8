import PackageSearch.Digest.Blake3
import PackageSearch.Text.Hex
import PackageSearch.Text.Utf8

/-!
Fixed size keys for query texts.
-/

namespace PackageSearch

/-- The first 128 bits of the BLAKE3 hash of a query's UTF-8 bytes. -/
structure Fingerprint where
  bytes : List UInt8
  length_bytes : bytes.length = 16
  deriving DecidableEq

namespace Fingerprint

def ofQuery (query : String) : Fingerprint where
  bytes := (Digest.Blake3.hash (Text.encode query.toList)).take 16
  length_bytes := by simp [Digest.Blake3.length_hash]

def render (fingerprint : Fingerprint) : String :=
  String.ofList (fingerprint.bytes.flatMap Text.hexByte)

end Fingerprint

end PackageSearch
