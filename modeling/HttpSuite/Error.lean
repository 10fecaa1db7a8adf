/-
HttpSuite/Error.lean

What can go wrong around a request. Each cause is of one kind, and its message starts with what is
said of all causes of the kind.
-/
import HttpSuite.Files
import HttpSuite.Url.Basic

namespace HttpSuite

/-- Why a request, a response, a script or a configuration cannot be made. -/
inductive Error where
  | invalidMethod (text : String)
  | invalidStatus (code : Nat)
  | invalidHeaderName (name : String)
  | invalidHeaderValue (name value : String)
  | unreadableDocument (cause : FileError)
  | emptyTarget
  | invalidTarget (target : String) (cause : Url.Fault)
  | unreadableScript (path : String) (cause : FileError)
  | unreadableConfiguration (path : String) (cause : FileError)
  | malformedConfiguration
  | unreadableBody (path : String) (cause : FileError)
  /-- A request that did not get through, told in the words of what carries requests. -/
  | unreachable (detail : String)
deriving DecidableEq, Repr, Inhabited

namespace Error

/-- The kinds of causes. -/
inductive Kind where
  | format
  | url
  | script
  | configuration
  | other
deriving DecidableEq, Repr, Inhabited

/-- What is said of all causes of a kind. -/
def Kind.label : Kind → String
  | format => "解析错误: "
  | url => "无效的 URL: "
  | script => "脚本错误: "
  | configuration => "配置错误: "
  | other => ""

/-- The kind of a cause. -/
def kind : Error → Kind
  | invalidMethod _ | invalidStatus _ | invalidHeaderName _ | invalidHeaderValue .. |
    unreadableDocument _ => .format
  | emptyTarget | invalidTarget .. => .url
  | unreadableScript .. => .script
  | unreadableConfiguration .. | malformedConfiguration => .configuration
  | unreadableBody .. | unreachable _ => .other

/-- The text of a document that cannot be read. -/
def documentDetail (cause : FileError) : String := "IO error: " ++ cause.message

/-- What is said of a cause alone. -/
def detail : Error → String
  | invalidMethod text => "Invalid HTTP method: " ++ text
  | invalidStatus code => "Invalid HTTP status code: " ++ toString code
  | invalidHeaderName name => "Invalid header name: " ++ name
  | invalidHeaderValue name value => "Invalid value for header " ++ name ++ ": " ++ value
  | unreadableDocument cause => documentDetail cause
  | emptyTarget => "empty target"
  | invalidTarget target cause => target ++ ": " ++ cause.message
  | unreadableScript path cause => "无法读取脚本文件 " ++ path ++ ": " ++ cause.message
  | unreadableConfiguration path cause => "无法读取配置文件 " ++ path ++ ": " ++ cause.message
  | malformedConfiguration => "配置文件格式错误"
  | unreadableBody path cause => "Failed to read body file " ++ path ++ ": " ++ cause.message
  | unreachable detail => detail

/-- The text of a cause. -/
def message (e : Error) : String := e.kind.label ++ e.detail

end Error

end HttpSuite
