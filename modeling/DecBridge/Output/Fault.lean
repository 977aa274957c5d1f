/-!
# Input and output that fails

The ways in which reading, writing or starting something may fail, with the words for each.
-/

namespace DecBridge.Output

inductive Fault where
  | notFound
  | permissionDenied
  | notDirectory
  | isDirectory
  | invalidArgument
  | noSpace
  | brokenPipe
  | nameTooLong
  | tooManyLinks
  | leftRoot
  | notUtf8
  | nulInName
  | other (text : String)
  deriving DecidableEq, Inhabited, Repr

def Fault.message : Fault → String
  | .notFound => "No such file or directory (os error 2)"
  | .permissionDenied => "Permission denied (os error 13)"
  | .notDirectory => "Not a directory (os error 20)"
  | .isDirectory => "Is a directory (os error 21)"
  | .invalidArgument => "Invalid argument (os error 22)"
  | .noSpace => "No space left on device (os error 28)"
  | .brokenPipe => "Broken pipe (os error 32)"
  | .nameTooLong => "File name too long (os error 36)"
  | .tooManyLinks => "Too many levels of symbolic links (os error 40)"
  | .leftRoot => "a path led outside of the filesystem"
  | .notUtf8 => "stream did not contain valid UTF-8"
  | .nulInName => "file name contained an unexpected NUL byte"
  | .other text => text

end DecBridge.Output
