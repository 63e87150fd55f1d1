import TexBuild.Build.Result
import TexBuild.Diagnostic.Scan
import TexBuild.Number.Numeral
import TexBuild.Text.CodePoint
import TexBuild.Text.Encoding.Basic
import TexBuild.Text.Template
import TexBuild.Text.Utf8
import TexBuild.Volume.Errno

namespace TexBuild

/-- A document that could not be brought to its place. -/
structure RelocationError where
  built : Path
  destination : Path
  cause : SystemError
deriving DecidableEq

/-- The words for a document that could not be brought to its place. -/
def RelocationError.message (e : RelocationError) : String :=
  s!"Failed to copy PDF to {e.destination}: {e.cause.brief}"

/-- A part of a date or of a time of day. -/
inductive InstantPart where
  | year | month | day | hour | minute | second
deriving DecidableEq

/-- Why the table of install locations gives no candidates: the octets are no text,
the text is not in the notation of the table, the notation denotes something unfit,
or a reference inside an entry cannot be followed. -/
inductive TableError where
  | undecodable (m : Utf8.Misfit)
  | unprintable
  | malformed
  | disconnected
  | unscannable
  | unconstructible
  | noWhole (cause : Numeral.WholeError)
  | noReal (text : String)
  | emptyNumeral
  | noTruth (word : String)
  | noInstant
  | outside (part : InstantPart)
  | foreignPath
  | notATable (kind : String)
  | neverATable
  | unfitKey
  | unfitValue
  | badReference
  | unknownReference
  | missingValue
  | unknownResolver
  | unresolved
  | missingField (name : String)
  | wrongType
  | unreadable (cause : SystemError)
deriving DecidableEq

/-- The most characters of a text that a message about a numeral shows. -/
def shownLimit : Nat := 200

/-- A whole number that cannot be read, in words. -/
def wholeErrorText : Numeral.WholeError → String
  | .notANumeral base text =>
    let shown := String.ofList ((quoted text).toList.take shownLimit)
    s!"invalid literal for int() with base {base}: {shown}"
  | .long digits =>
    s!"Exceeds the limit ({Numeral.wholeLimit} digits) for integer string conversion: value has {digits} digits; use sys.set_int_max_str_digits() to increase the limit"

/-- A part of a date or time that is out of its range, in words. -/
def InstantPart.message : InstantPart → String
  | year => "year 0 is out of range"
  | month => "month must be in 1..12"
  | day => "day is out of range for month"
  | hour => "hour must be in 0..23"
  | minute => "minute must be in 0..59"
  | second => "second must be in 0..59"

/-- Everything that can end an operation before its result. -/
inductive Fault where
  | system (cause : SystemError)
  | linkLoop (path : String)
  | unknownHome
  | stackOverflow
  | nulInText
  | loneSurrogate
  | longNumeral (digits : Nat)
  | span (cause : SpanError)
  | notANumber (text : String)
  | unknownFailure (word : String)
  | outcome (cause : OutcomeError)
  | assignment (cause : Diagnostic.AssignError)
  | relocation (cause : RelocationError)
  | unknownLevel (word : String)
  | unknownEncoding (word : String)
  | notTextEncoding (word : String)
  | nulInWord
  | noProgramName
  | decoding (cause : DecodeError)
  | template (cause : TemplateError)
  | table (cause : TableError)
  | cancelled
  | unending
deriving DecidableEq

/-- A misfit in words. -/
def misfitText (m : Utf8.Misfit) : String :=
  let reason := match m.flaw with
    | .start => "invalid start byte"
    | .continuation => "invalid continuation byte"
    | .short => "unexpected end of data"
  match m.octets with
  | [b] =>
    let digits := String.ofList (Nat.toDigits 16 b.toNat)
    s!"'utf-8' codec can't decode byte 0x{digits} in position {m.position}: {reason}"
  | octets =>
    let last := m.position + octets.length - 1
    s!"'utf-8' codec can't decode bytes in position {m.position}-{last}: {reason}"

/-- Why octets have no text, in words. -/
def decodeErrorText : DecodeError → String
  | .noByteOrderMark bits => s!"UTF-{bits} stream does not start with BOM"
  | .notAscii octet position =>
    let digits := String.ofList (Nat.toDigits 16 octet.toNat)
    s!"'ascii' codec can't decode byte 0x{digits} in position {position}: ordinal not in range(128)"
  | .strictOnly => "Unsupported error handling replace"
  | .empty => "undefined encoding"

namespace Fault

/-- The fault in words. The causes that a table gives have no fixed wording. -/
def message : Fault → String
  | .system cause => cause.message
  | .linkLoop path => s!"Symlink loop from {quoted path}"
  | .unknownHome => "Could not determine home directory."
  | .stackOverflow => "maximum recursion depth exceeded"
  | .nulInText => "embedded null byte"
  | .loneSurrogate => "surrogates not allowed"
  | .longNumeral digits => wholeErrorText (.long digits)
  | .span .infinite => "cannot convert float infinity to integer"
  | .span .nan => "cannot convert float NaN to integer"
  | .span .large => "int too large to convert to float"
  | .span .long =>
    s!"Exceeds the limit ({digitLimit} digits) for integer string conversion; use sys.set_int_max_str_digits() to increase the limit"
  | .notANumber text => s!"could not convert string to float: {quoted text}"
  | .unknownFailure word => s!"{quoted word} is not a valid BuildFailure"
  | .outcome .noArtifact => "Successful BuildResult requires an artifact_path"
  | .outcome .causeOfSuccess => "Successful BuildResult cannot carry an error"
  | .outcome .artifactOfFailure => "Failed BuildResult cannot have an artifact_path"
  | .outcome .noCause => "Failed BuildResult requires an error_message and failure"
  | .assignment (.unknownSeverity word) => s!"{quoted word} is not a valid Severity"
  | .assignment .severityFixed => "Diagnostic severity cannot be changed after construction"
  | .assignment (.cleared field) => s!"Diagnostic {field.text} cannot be cleared once set"
  | .relocation cause => cause.message
  | .unknownLevel word => s!"Level {quoted word} does not exist"
  | .unknownEncoding word => s!"unknown encoding: {word}"
  | .nulInWord => "embedded null character"
  | .noProgramName => "list index out of range"
  | .decoding cause => decodeErrorText cause
  | .notTextEncoding word =>
    s!"'{word}' is not a text encoding; use codecs.open() to handle arbitrary codecs"
  | .template cause => cause.message
  | .table (.undecodable m) => misfitText m
  | .table (.missingField name) => name
  | .table (.unreadable cause) => cause.message
  | .table (.noWhole cause) => wholeErrorText cause
  | .table (.noReal text) => s!"could not convert string to float: {quoted text}"
  | .table .emptyNumeral => "string index out of range"
  | .table (.noTruth word) => word
  | .table .noInstant => "'NoneType' object has no attribute 'groupdict'"
  | .table (.outside part) => part.message
  | .table .foreignPath => "cannot instantiate 'WindowsPath' on your system"
  | .table (.notATable kind) => s!"Invalid loaded object type: {kind}"
  | .table _ => ""
  | .cancelled | .unending => ""

/-- What a text ends in that the system does not take: a lone half of a pair of surrogates has no
octets, and that is met before anything that ends the text. -/
def unfit (text : String) : Fault :=
  if (text.toList.filter (· != Char.ofNat 0)).all fun c => (CodePoint.ofChar c).isFit then .nulInText
  else .loneSurrogate

/-- Faults that lie in what is around: the system refuses, a link leads round in a
circle or through too many others, or a home directory is not known. -/
def isRefusal : Fault → Bool
  | .system _ | .linkLoop _ | .unknownHome | .stackOverflow => true
  | _ => false

end Fault

end TexBuild
