import ArticleExport.Digest.Sha256
import ArticleExport.Failure
import ArticleExport.Json.Printer
import ArticleExport.Json.Reader

/-!
# Fingerprints

A fingerprint stands for an article together with what is published with it.  It is taken of the
canonical text of the document, so the order of names does not matter, and the fields of the metadata
that change with every export are left out.
-/

namespace ArticleExport

/-- The fields of a document's metadata that change without the article changing. -/
def volatileFields : List Text := ["dateCreated", "dateModified", "datePublished", "generatorVersion"]

/-- The name of a document's metadata. -/
def metadataKey : Text := "metadata"

/-- The name under which the publish metadata and the bundles join the document. -/
def checksumKey : Text := "checksum"

/-- The number of hexadecimal digits of a fingerprint. -/
def fingerprintLength : Nat := 16

/-- The metadata without the fields that change with every export. -/
def stableMetadata (metadata : Table Json) : Table Json :=
  metadata.filter fun e => !volatileFields.contains e.1

/-- The document without the fields of its metadata that change with every export. -/
def normalizeDocument (document : Table Json) : Table Json :=
  match Table.get? metadataKey document with
  | some (.obj metadata) => Table.set metadataKey (.obj (stableMetadata metadata)) document
  | _ => document

/-- What a fingerprint is taken of. -/
def fingerprintValue (document metadata : Table Json) (bundles : List Text) : Json :=
  .obj (Table.set checksumKey
    (.obj [("meta", .obj metadata), ("bundles", .arr (bundles.map Json.str))])
    (normalizeDocument document))

/-- The text that is hashed. -/
def fingerprintText (document metadata : Table Json) (bundles : List Text) : Text :=
  (fingerprintValue document metadata bundles).canonicalText

/-- The first digits of the digest of a text; a text with a lone surrogate has none. -/
def textDigest (t : Text) : Except Fault Text :=
  match Utf8.encode? t with
  | some bytes =>
    .ok (((Sha256.hex (Sha256.digest bytes)).take fingerprintLength).map CodePoint.scalar)
  | none => .error .unencodable

/-- The fingerprint of a document; empty for anything but an object with something in it.  There is none
where the keys of a mapping have no order. -/
def fingerprint (document : Json) (metadata : Table Json) (bundles : List Text) :
    Except Fault Text :=
  match document with
  | .obj (e :: entries) =>
    match (fingerprintValue (e :: entries) metadata bundles).unordered? with
    | some (later, earlier) => .error (.unorderedKeys later.kindName earlier.kindName)
    | none => textDigest (fingerprintText (e :: entries) metadata bundles)
  | _ => .ok []

/-- The fingerprint of the value that a JSON text stands for; empty where it stands for none. -/
def fingerprintOfText (text : Text) (metadata : Table Json) (bundles : List Text) :
    Except Fault Text :=
  match Json.parse? text with
  | some document => fingerprint document metadata bundles
  | none => .ok []

/-- The fingerprint of the value that bytes of JSON stand for; empty where they stand for none. -/
def fingerprintOfBytes (bytes : List UInt8) (metadata : Table Json) (bundles : List Text) :
    Except Fault Text :=
  match Json.parseBytes? bytes with
  | some document => fingerprint document metadata bundles
  | none => .ok []

end ArticleExport
