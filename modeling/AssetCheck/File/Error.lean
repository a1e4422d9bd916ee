/-!
What can go wrong with files and streams.
-/

namespace AssetCheck

/-- Why the file system or a stream refuses an operation. -/
inductive IoError
  | notFound
  | brokenPipe
  | alreadyExists
  | notDirectory
  | isDirectory
  | nameTooLong
  | noSpace
  /-- A path holds a null character. -/
  | nullInPath
  /-- Bytes are no text in UTF-8. -/
  | notText
  /-- Any other reason that a device has. -/
  | other (reason : String)
  deriving DecidableEq, Repr

/-- The text of an error, with the number that the operating system gives it. -/
def IoError.message : IoError → String
  | .notFound => "No such file or directory (os error 2)"
  | .brokenPipe => "Broken pipe (os error 32)"
  | .alreadyExists => "File exists (os error 17)"
  | .notDirectory => "Not a directory (os error 20)"
  | .isDirectory => "Is a directory (os error 21)"
  | .nameTooLong => "File name too long (os error 36)"
  | .noSpace => "No space left on device (os error 28)"
  | .nullInPath => "file name contained an unexpected NUL byte"
  | .notText => "stream did not contain valid UTF-8"
  | .other reason => reason

end AssetCheck
