/-! Why the disk refused an operation. -/
namespace CardText

inductive OsError where
  | noSuchFile
  | busy
  | alreadyExists
  | notADirectory
  | isADirectory
  | nameTooLong
  | nulInName
  | invalidText
  | other (message : String)
  deriving DecidableEq, Repr

def OsError.message : OsError → String
  | noSuchFile => "No such file or directory (os error 2)"
  | busy => "Device or resource busy (os error 16)"
  | alreadyExists => "File exists (os error 17)"
  | notADirectory => "Not a directory (os error 20)"
  | isADirectory => "Is a directory (os error 21)"
  | nameTooLong => "File name too long (os error 36)"
  | nulInName => "file name contained an unexpected NUL byte"
  | invalidText => "stream did not contain valid UTF-8"
  | other message => message

end CardText
