import RocqMcp.Text

/-! Paths of the operating system, whose names need not be UTF-8. -/

namespace RocqMcp

/-- The bytes of one component of a path. -/
abbrev OsName := Bytes

/-- The components of an absolute path, or of a path below some directory. -/
abbrev OsPath := List OsName

namespace OsName

/-- `OsStr::to_str`. -/
def toStr (name : OsName) : Option String := bytesText? name

/-- `Path::extension` of a file name: what follows the last dot, unless the name begins there. -/
def extension (name : OsName) : Option Bytes :=
  let after := (name.reverse.takeWhile fun byte => byte ≠ 0x2e).reverse
  if after.length + 1 < name.length then some after else none

/-- `Path::file_stem` of a file name. -/
def stem (name : OsName) : OsName :=
  match name.extension with
  | some extension => name.take (name.length - extension.length - 1)
  | none => name

end OsName

namespace OsPath

def startsWith (path directory : OsPath) : Bool := directory.isPrefixOf path

def stripPrefix (path directory : OsPath) : Option OsPath :=
  if directory.isPrefixOf path then some (path.drop directory.length) else none

/-- `PathBuf::set_extension`. -/
def withExtension (path : OsPath) (extension : OsName) : OsPath :=
  match path.getLast? with
  | none => path
  | some name => path.dropLast ++ [name.stem ++ 0x2e :: extension]

/-- The bytes of a relative path. -/
def bytes (path : OsPath) : Bytes := List.intercalate [0x2f] path

/-- `to_string_lossy` and `replace` of the separator of other systems. -/
def lossy (path : OsPath) : String := replaceChar '\\' '/' (lossyText path.bytes)

end OsPath

/-- What the file system says of absolute paths. A canonical path is its own canonical path. -/
structure FileSystem where
  canonicalize : OsPath → Option OsPath
  isFile : OsPath → Bool
  canonical : ∀ path real, canonicalize path = some real → canonicalize real = some real

end RocqMcp
