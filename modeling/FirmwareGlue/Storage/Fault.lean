/-!
# Why a file operation fails

The causes that reading, writing and creating can report. Each has the text and the number that
the operating system gives it. Two are found before the system is asked, or after it has answered,
and have texts of their own: a path that no file can have, and a file that is read as text and is
none.
-/

namespace FirmwareGlue.Storage

inductive Fault where
  | notFound
  | isADirectory
  | notADirectory
  | alreadyExists
  /-- A place that is in use, as a directory is that a path names by dots. -/
  | resourceBusy
  | nameTooLong
  /-- A path with the character that ends paths. -/
  | invalidPath
  | invalidData
  /-- Any other cause, with the text it comes with. -/
  | other (text : String)
  deriving DecidableEq

def Fault.message : Fault → String
  | notFound => "No such file or directory (os error 2)"
  | isADirectory => "Is a directory (os error 21)"
  | notADirectory => "Not a directory (os error 20)"
  | alreadyExists => "File exists (os error 17)"
  | resourceBusy => "Device or resource busy (os error 16)"
  | nameTooLong => "File name too long (os error 36)"
  | invalidPath => "file name contained an unexpected NUL byte"
  | invalidData => "stream did not contain valid UTF-8"
  | other text => text

end FirmwareGlue.Storage
