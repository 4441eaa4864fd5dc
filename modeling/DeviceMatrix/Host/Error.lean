import DeviceMatrix.Text.Decimal

/-! What an operating system refuses, with its texts. -/
namespace DeviceMatrix.Host

inductive IoError where
  | notFound
  | noDevice
  | badDescriptor
  | permissionDenied
  | alreadyExists
  | notDirectory
  | isDirectory
  | noSpace
  | nameTooLong
  | nulInPath
  | nulInArgument
  | notUtf8
  deriving DecidableEq, Repr

def IoError.text : IoError → String × Option Nat
  | notFound => ("No such file or directory", some 2)
  | noDevice => ("No such device or address", some 6)
  | badDescriptor => ("Bad file descriptor", some 9)
  | permissionDenied => ("Permission denied", some 13)
  | alreadyExists => ("File exists", some 17)
  | notDirectory => ("Not a directory", some 20)
  | isDirectory => ("Is a directory", some 21)
  | noSpace => ("No space left on device", some 28)
  | nameTooLong => ("File name too long", some 36)
  | nulInPath => ("file name contained an unexpected NUL byte", none)
  | nulInArgument => ("nul byte found in provided data", none)
  | notUtf8 => ("stream did not contain valid UTF-8", none)

def IoError.message (error : IoError) : String :=
  match error.text with
  | (text, some number) => text ++ " (os error " ++ Decimal.ofNat number ++ ")"
  | (text, none) => text

end DeviceMatrix.Host
