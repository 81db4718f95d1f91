import ZigDecls.Text.CodePoint
import ZigDecls.Zig.TypeName

/-!
# Failures

What can end a run early, by its cause. Every cause has one wording.
-/

namespace ZigDecls
open Text

inductive Failure
  /-- There is no page at the path, which is as it was given. -/
  | pageMissing (path : CodePoints)
  | isDirectory (path : CodePoints)
  | fileExists (path : CodePoints)
  | notDirectory (path : CodePoints)
  | nullInPath
  | nameTooLong (path : CodePoints)
  /-- What was read is no UTF-8. -/
  | encoding (fault : Utf8.Fault)
  /-- What was to be written, or the text of a path, has no bytes. -/
  | noBytes (fault : NoBytes)
  | noRegion (id : CodePoints)
  | unmapped (type : UnmappedType)
  /-- A part that had to be read was not given. -/
  | missing (part : String)
  /-- The code is to go to a file, and its path was set to no value. -/
  | noOutput
  /-- The level of the log was set to no value. -/
  | noLevel
  /-- The type of an array's elements was set to no value. -/
  | noElementType
deriving DecidableEq, Repr

def Failure.message : Failure → String
  | pageMissing path => "HTML not found: " ++ path.shown
  | isDirectory path => "[Errno 21] Is a directory: " ++ path.quoted
  | fileExists path => "[Errno 17] File exists: " ++ path.quoted
  | notDirectory path => "[Errno 20] Not a directory: " ++ path.quoted
  | nullInPath => "embedded null byte"
  | nameTooLong path => "[Errno 36] File name too long: " ++ path.quoted
  | encoding fault => fault.message
  | noBytes fault => fault.message
  | noRegion id => "No element with id " ++ id.quoted ++ " in document"
  | unmapped type => type.reason
  | missing part => quoted part
  | noOutput => "expected str, bytes or os.PathLike object, not list"
  | noLevel => "attribute name must be string, not 'list'"
  | noElementType => "can only concatenate str (not \"list\") to str"

end ZigDecls
