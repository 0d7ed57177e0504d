/-
# Parts of texts

From the text that a slot of a template names, the slot may go on to parts: to
the class of the text and to the methods that texts have, and from these to
their names, to what they belong to and to their classes in turn. Items are the
characters of a text and the members of a row of classes, by position.

A part that is no text is shown between angle brackets. The text of a method
ends in a place in memory, which counts as zero here.

Key definitions: `Template.Part`, `Template.Part.part?`, `Template.Part.item`,
`Template.Part.plain`.
-/
import ReportFilter.Failure
import ReportFilter.Text.Quoted

namespace ReportFilter
namespace Template

/-- The classes that lead from a text to other parts. -/
inductive Class where
  | text
  | object
  /-- The class of classes. -/
  | type
  /-- The class of rows. -/
  | tuple
  /-- The class of methods that belong to a text or to a class. -/
  | function
  /-- The class of operations that belong to a text. -/
  | boundOperation
  /-- The class of methods without a text. -/
  | method
  /-- The class of operations without a text. -/
  | operation
  | nothing
  deriving DecidableEq, Repr

namespace Class

/-- The name of a class. -/
def name : Class → String
  | text => "str"
  | object => "object"
  | type => "type"
  | tuple => "tuple"
  | function => "builtin_function_or_method"
  | boundOperation => "method-wrapper"
  | method => "method_descriptor"
  | operation => "wrapper_descriptor"
  | nothing => "NoneType"

/-- A class in writing. -/
def plain (c : Class) : String := "<class '" ++ c.name ++ "'>"

/-- The classes that a class is directly under. -/
def bases : Class → List Class
  | object => []
  | _ => [object]

/-- A class and the classes that it is under. -/
def line (c : Class) : List Class := c :: c.bases

/-- The methods of texts. -/
def textMethods : List String :=
  ["capitalize", "casefold", "center", "count", "encode", "endswith", "expandtabs", "find",
    "format", "format_map", "index", "isalnum", "isalpha", "isascii", "isdecimal", "isdigit",
    "isidentifier", "islower", "isnumeric", "isprintable", "isspace", "istitle", "isupper",
    "join", "ljust", "lower", "lstrip", "partition", "removeprefix", "removesuffix", "replace",
    "rfind", "rindex", "rjust", "rpartition", "rsplit", "rstrip", "split", "splitlines",
    "startswith", "strip", "swapcase", "title", "translate", "upper", "zfill", "__format__",
    "__getnewargs__", "__sizeof__"]

/-- The operations of texts. -/
def textOperations : List String :=
  ["__add__", "__contains__", "__eq__", "__ge__", "__getattribute__", "__getitem__", "__gt__",
    "__hash__", "__iter__", "__le__", "__len__", "__lt__", "__mod__", "__mul__", "__ne__",
    "__repr__", "__rmod__", "__rmul__", "__str__"]

/-- The methods of all things. -/
def objectMethods : List String :=
  ["__dir__", "__format__", "__getstate__", "__reduce__", "__reduce_ex__", "__sizeof__"]

/-- The operations of all things. -/
def objectOperations : List String :=
  ["__delattr__", "__eq__", "__ge__", "__getattribute__", "__gt__", "__hash__", "__init__",
    "__le__", "__lt__", "__ne__", "__repr__", "__setattr__", "__str__"]

/-- The methods that a class defines. -/
def methods : Class → List String
  | text => textMethods
  | object => objectMethods
  | _ => []

/-- The operations that a class defines. -/
def operations : Class → List String
  | text => textOperations
  | object => objectOperations
  | _ => []

/-- The methods that belong to a class, texts of the class or not. -/
def ownMethods : Class → List String
  | text => ["maketrans", "__new__", "__init_subclass__", "__subclasshook__"]
  | object => ["__new__", "__init_subclass__", "__subclasshook__"]
  | _ => []

/-- The methods of classes. -/
def classMethods : List String := ["mro", "__subclasses__"]

end Class

/-- A method or an operation, and the class that defines it. -/
structure Member where
  name : String
  definer : Class
  isOperation : Bool
  deriving DecidableEq, Repr

namespace Member

/-- The member of a name that a class defines. -/
def ofClass? (name : String) (c : Class) : Option Member :=
  if c.methods.contains name then some ⟨name, c, false⟩
  else if c.operations.contains name then some ⟨name, c, true⟩
  else none

/-- The member of a name that things of a class have. -/
def find? (c : Class) (name : String) : Option Member := c.line.findSome? (ofClass? name)

/-- The name of a member behind the name of a class. -/
def fullName (m : Member) (c : Class) : String := c.name ++ "." ++ m.name

end Member

/-- What the name of a slot leads to. -/
inductive Part where
  | text (s : List Char)
  /-- A class itself. -/
  | itself (c : Class)
  | classes (cs : List Class)
  | nothing
  /-- A member that belongs to a text. -/
  | ofText (m : Member) (s : List Char)
  /-- A method that belongs to a class. -/
  | ofClass (name : String) (c : Class)
  /-- A member without a text. -/
  | member (m : Member)
  deriving DecidableEq, Repr

namespace Part

/-- A short text as a part. -/
def word (s : String) : Part := text s.toList

/-- The class of a part. -/
def classOf : Part → Class
  | text _ => .text
  | itself _ => .type
  | classes _ => .tuple
  | nothing => .nothing
  | ofText m _ => if m.isOperation then .boundOperation else .function
  | ofClass .. => .function
  | member m => if m.isOperation then .operation else .method

/-- What a text says about texts. -/
def aboutTexts : String := "\n".intercalate
  ["str(object='') -> str",
    "str(bytes_or_buffer[, encoding[, errors]]) -> str",
    "",
    "Create a new string object from the given object. If encoding or",
    "errors is specified, then the object must expose a data buffer",
    "that will be decoded using the given encoding and error handler.",
    "Otherwise, returns the result of object.__str__() (if defined)",
    "or repr(object).",
    "encoding defaults to sys.getdefaultencoding().",
    "errors defaults to 'strict'."]

/-- The part of a text that is not its class. -/
def textPart? (s : List Char) (name : String) : Option Part :=
  if name = "__doc__" then some (word aboutTexts) else
  match Member.find? .text name with
  | some m => some (ofText m s)
  | none => if Class.text.ownMethods.contains name then some (ofClass name .text) else none

/-- The part of a class that is not its class. -/
def classPart? (c : Class) (name : String) : Option Part :=
  if name = "__name__" ∨ name = "__qualname__" then some (word c.name)
  else if name = "__module__" then some (word "builtins")
  else if name = "__doc__" ∧ c = .text then some (word aboutTexts)
  else if name = "__mro__" then some (classes c.line)
  else if name = "__bases__" then some (classes c.bases)
  else if name = "__base__" then some (c.bases.head?.elim nothing itself)
  else
    match Member.ofClass? name c, Member.find? c name with
    | some m, _ => some (member m)
    | none, inherited =>
      if (c.ownMethods ++ Class.classMethods).contains name then some (ofClass name c)
      else if c = .text then inherited.map member
      else none

/-- The part of a method or an operation that is not its class. -/
def memberPart? (m : Member) (name : String) : Option Part :=
  if name = "__name__" then some (word m.name)
  else if name = "__qualname__" then some (word (m.fullName m.definer))
  else if name = "__objclass__" then some (itself m.definer)
  else none

/-- The part of a method that belongs to `owner`, a thing of class `c` or `c`
itself. -/
def functionPart? (function : String) (c : Class) (owner : Part) (name : String) : Option Part :=
  if name = "__name__" then some (word function)
  else if name = "__qualname__" then some (word (c.name ++ "." ++ function))
  else if name = "__self__" then some owner
  else if name = "__module__" then some nothing
  else none

/-- The part of a name, if there is one. -/
def part? (p : Part) (name : String) : Option Part :=
  if name = "__class__" then some (itself p.classOf)
  else
    match p with
    | text s => textPart? s name
    | itself c => classPart? c name
    | ofText m s =>
      if !m.isOperation then functionPart? m.name .text (text s) name
      else if name = "__self__" then some (text s)
      else memberPart? m name
    | ofClass function c => functionPart? function c (itself c) name
    | member m => memberPart? m name
    | classes _ | nothing => none

/-- The item at a position. -/
def item (p : Part) (n : Nat) : Except Failure Part :=
  match p with
  | text s =>
    match s[n]? with
    | some c => .ok (text [c])
    | none => .error .slotPosition
  | classes cs =>
    match cs[n]? with
    | some c => .ok (itself c)
    | none => .error .slotPosition
  | _ => .error .slotItem

/-- A row in writing; one thing alone is followed by a comma. -/
def row : List String → String
  | [s] => "(" ++ s ++ ",)"
  | ss => "(" ++ ", ".intercalate ss ++ ")"

/-- A method that belongs to a thing, in writing. -/
def boundMethod (name : String) (c : Class) : String :=
  "<built-in method " ++ name ++ " of " ++ c.name ++ " object at 0x0>"

/-- A part in writing. -/
def plain : Part → List Char
  | text s => s
  | itself c => c.plain.toList
  | classes cs => (row (cs.map Class.plain)).toList
  | nothing => "None".toList
  | ofText m _ =>
    (if m.isOperation then "<method-wrapper '" ++ m.name ++ "' of str object at 0x0>"
      else boundMethod m.name .text).toList
  | ofClass name _ => (boundMethod name .type).toList
  | member m =>
    ((if m.isOperation then "<slot wrapper '" else "<method '") ++ m.name ++ "' of '" ++
      m.definer.name ++ "' objects>").toList

/-- A part in a message: a text stands between quotes. -/
def shown : Part → List Char
  | text s => Text.quoted s
  | p => p.plain

/-- A part in a message, in ASCII alone. -/
def asciiShown : Part → List Char
  | text s => Text.asciiQuoted s
  | p => p.plain

end Part
end Template
end ReportFilter
