import ArticleExport.Text.Quoted

/-!
# Faults

What can go wrong with data and surroundings: each cause, the class under which it is raised, and its
wording where that follows from the cause.
-/

namespace ArticleExport

/-- What is wrong with one field of a record. -/
inductive Problem where
  /-- A field that has to be there is not. -/
  | missing
  /-- A text was expected. -/
  | notText
  /-- A text without lone surrogates was expected. -/
  | notEncodable
  /-- An object was expected. -/
  | notObject
  /-- A list was expected. -/
  | notList
  /-- A truth value was expected. -/
  | notBool
  /-- The value names no truth value. -/
  | unknownBool
  /-- A whole number was expected. -/
  | notInt
  /-- The text is not that of a whole number. -/
  | unreadableInt
  /-- The number has a fraction. -/
  | fractionalInt
  /-- The number is infinite or not a number. -/
  | notFinite
  /-- The text of the number is too long. -/
  | oversizedInt
  /-- The value is none of the choices. -/
  | notAChoice
deriving DecidableEq, Repr

namespace Problem

/-- The short name under which a problem is reported. -/
def label : Problem → Text
  | missing => "missing"
  | notText => "string_type"
  | notEncodable => "string_unicode"
  | notObject => "dict_type"
  | notList => "list_type"
  | notBool => "bool_type"
  | unknownBool => "bool_parsing"
  | notInt => "int_type"
  | unreadableInt => "int_parsing"
  | fractionalInt => "int_from_float"
  | notFinite => "finite_number"
  | oversizedInt => "int_parsing_size"
  | notAChoice => "literal_error"

end Problem

/-- A problem and the place where it was found. -/
structure FieldIssue where
  /-- The names and positions that lead to the place. -/
  path : List Text
  /-- What is wrong there. -/
  problem : Problem
deriving DecidableEq, Repr

namespace FieldIssue

/-- An issue in one line. -/
def describe (i : FieldIssue) : Text := Text.join "." i.path ++ (": " : Text) ++ i.problem.label

/-- Issues in the order in which they are reported. -/
def report (issues : List FieldIssue) : List Text := Text.sorted (issues.map describe)

end FieldIssue

/-- A failure that is no error of the export: data of the wrong shape, or the surroundings.  The kinds of
values are given by their names. -/
inductive Fault where
  /-- A value of a kind that has no entries was asked for one. -/
  | withoutEntries (kind : Text)
  /-- No theme has this name. -/
  | unknownTheme (name : Text) (available : List Text)
  /-- No spec has this name. -/
  | unknownSpec (component name : Text) (available : List Text)
  /-- A record has fields that do not fit. -/
  | invalidFields (issues : List FieldIssue)
  /-- A record was expected, and the value is no object. -/
  | notARecord
  /-- A text was expected to be JSON. -/
  | notJson
  /-- A text was expected to be JSON, and it has a whole number with too many digits. -/
  | oversizedJson
  /-- A number that standard JSON does not have was to be written in it. -/
  | numberBeyondJson
  /-- A text with a lone surrogate was to be written as bytes. -/
  | unencodable
  /-- The markup of a document has no element. -/
  | emptyDocument
  /-- The markup of a document declares an encoding. -/
  | declaredEncoding
  /-- The markup of a document has no body, or more than one. -/
  | noSingleBody (markup : Text)
  /-- A value of the environment could not be read. -/
  | unreadableSetting
  /-- No setting has this name. -/
  | unknownSetting (name : Text)
  /-- No level of records has this name. -/
  | unknownLevel (name : Text)
  /-- Items were expected, and a value of this kind has none. -/
  | notIterable (kind : Text)
  /-- A value of this kind was asked for the item at a position. -/
  | notIndexed (kind : Text)
  /-- A value of this kind was to be a key or to be looked up among keys. -/
  | noKey (kind : Text)
  /-- The item at a position was to be a pair, and it has no items. -/
  | unsequencedItem (position : Nat)
  /-- The item at a position was to be a pair, and it has another number of items. -/
  | unpairedItem (position size : Nat)
  /-- The item at a position was to be a text, and is of this kind. -/
  | notAText (position : Nat) (kind : Text)
  /-- A whole number was expected, and the value is of this kind. -/
  | notANumber (kind : Text)
  /-- A whole number was expected, and the text is not that of one. -/
  | unreadableNumber (text : Text)
  /-- A whole number was expected, and the text has this many digits, which is too many. -/
  | longNumber (digits : Nat)
  /-- A whole number was expected, and the value is not a number. -/
  | undefinedNumber
  /-- A whole number was expected, and the number is infinite. -/
  | infiniteNumber
  /-- Two values of these kinds were to be added. -/
  | notAddable (left right : Text)
  /-- A figure without a picture or a quote was to be shown as one. -/
  | missingPart
  /-- An element that is no heading was to be shown as one. -/
  | notAHeading
  /-- An address is not well formed. -/
  | badAddress (wording : Text)
  /-- An address cannot be the target of a request. -/
  | unreachableAddress (wording : Text)
  /-- The keys of a mapping were to be put in order, and two of them, of these kinds, have none. -/
  | unorderedKeys (later earlier : Text)
  /-- A date is none of the calendar. -/
  | badDate
  /-- A part of a date is of this kind, which is none for it. -/
  | badDatePart (kind : Text)
  /-- A value that has to be there was to be stored as null. -/
  | missingValue
  /-- A value of a kind that cannot be stored. -/
  | unstorable
  /-- A file or the directory that it belongs into is not there. -/
  | noSuchFile
  /-- A directory stands where a file was expected. -/
  | isDirectory
  /-- A name of a file holds the zero character. -/
  | zeroCharacter
  /-- A name of a file is too long. -/
  | longName
  /-- An error report of the service has no entry where one was expected. -/
  | missingEntry
  /-- A whole number is too large for its use. -/
  | oversizedNumber
  /-- A whole number with too many digits was to be written. -/
  | unwritableNumber
deriving Repr

/-- The classes of faults. -/
inductive FaultClass where
  /-- A value of the wrong kind. -/
  | kind
  /-- A value of the right kind that does not fit. -/
  | value
  /-- A part that the kind of a value does not have. -/
  | attribute
  /-- A position beyond the last one. -/
  | index
  /-- An entry that is not there. -/
  | key
  /-- A number that is too large. -/
  | range
  /-- Fields that do not fit. -/
  | fields
  /-- A text that is not JSON. -/
  | json
  /-- A text without a byte form. -/
  | encoding
  /-- Markup without an element. -/
  | markup
  /-- Something that was taken for granted. -/
  | assumption
  /-- A setting that could not be read. -/
  | setting
  /-- An address that cannot be reached. -/
  | address
  /-- A stored value that has to be there. -/
  | integrity
  /-- A value that cannot be stored. -/
  | storage
  /-- A missing file. -/
  | file
  /-- A directory in place of a file. -/
  | directory
  /-- Another failure of the system. -/
  | system
deriving DecidableEq, Repr

namespace Fault

/-- The class of a fault. -/
def kind : Fault → FaultClass
  | notARecord | notIterable _ | notIndexed _ | noKey _ | unsequencedItem _ | notAText .. | notANumber _
  | notAddable .. | unorderedKeys .. | badDatePart _ => .kind
  | unknownTheme .. | unknownSpec .. | oversizedJson | declaredEncoding | unknownSetting _
  | numberBeyondJson | unknownLevel _ | unpairedItem .. | unreadableNumber _ | longNumber _
  | unwritableNumber | undefinedNumber | badAddress _ | badDate | zeroCharacter => .value
  | withoutEntries _ | notAHeading => .attribute
  | missingPart => .index
  | missingEntry => .key
  | infiniteNumber | oversizedNumber => .range
  | invalidFields _ => .fields
  | notJson => .json
  | unencodable => .encoding
  | emptyDocument => .markup
  | noSingleBody _ => .assumption
  | unreadableSetting => .setting
  | unreachableAddress _ => .address
  | missingValue => .integrity
  | unstorable => .storage
  | noSuchFile => .file
  | isDirectory => .directory
  | longName => .system

/-- The wording of the failures that are told with one. -/
def message? : Fault → Option Text
  | unknownTheme name available =>
    some (("Unknown theme: '" : Text) ++ name ++ ("'. Available themes: " : Text) ++
      Text.quotedList available)
  | unknownSpec component name available =>
    some (("Unknown spec: '" : Text) ++ component ++ ("/" : Text) ++ name ++
      ("'. Available specs: " : Text) ++ Text.quotedList available)
  | _ => none

/-- A text with a name in quotes in the middle. -/
def around (before name after : Text) : Text :=
  before ++ ("'" : Text) ++ name ++ ("'" : Text) ++ after

/-- A text with a number in the middle. -/
def counted (before : Text) (n : Nat) (after : Text) : Text := before ++ Text.ofNat n ++ after

/-- The wording of a failure that another one is explained by, where it follows from the cause. -/
def wording? : Fault → Option Text
  | withoutEntries kind => some (around [] kind " object has no attribute 'get'")
  | emptyDocument => some "Document is empty"
  | declaredEncoding =>
    some (("Unicode strings with encoding declaration are not supported. " : Text) ++
      ("Please use bytes input or XML fragments without declaration." : Text))
  | noSingleBody markup => some (("too many bodies: [] in " : Text) ++ markup.quoted)
  | notIterable kind => some (around [] kind " object is not iterable")
  | notIndexed kind => some (around [] kind " object is not subscriptable")
  | noKey kind => some (around "unhashable type: " kind [])
  | unsequencedItem position =>
    some (counted "cannot convert dictionary update sequence element #" position " to a sequence")
  | unpairedItem position size =>
    some (counted (counted "dictionary update sequence element #" position " has length ") size
      "; 2 is required")
  | notAText position kind =>
    some (counted "sequence item " position (": expected str instance, " ++ kind ++ (" found" : Text)))
  | notANumber kind =>
    some (around "int() argument must be a string, a bytes-like object or a real number, not " kind [])
  | unreadableNumber text =>
    some (("invalid literal for int() with base 10: " : Text) ++ text.quoted)
  | longNumber digits =>
    some (counted ("Exceeds the limit (4300 digits) for integer string conversion: value has " : Text)
      digits " digits; use sys.set_int_max_str_digits() to increase the limit")
  | unwritableNumber => some "Exceeds the limit (4300 digits) for integer string conversion"
  | undefinedNumber => some "cannot convert float NaN to integer"
  | infiniteNumber => some "cannot convert float infinity to integer"
  | badAddress wording | unreachableAddress wording => some wording
  | unorderedKeys later earlier =>
    some (around (around "'<' not supported between instances of " later " and ") earlier [])
  | numberBeyondJson => some "Out of range float values are not JSON compliant"
  | missingPart => some "list index out of range"
  | missingEntry => some "0"
  | zeroCharacter => some "embedded null byte"
  | f => f.message?

end Fault

end ArticleExport
