import Bindery.Value.Printer

/-!
# Descriptors of native types

What a binding module needs to know about a native type: the Python type of its values, the foreign
type that stands for it in a prototype or a field, and which declaration it refers to, if any. The
name and the number of a declaration are taken as they are, whatever values they are.
-/

namespace Bindery

/-- A type expression of a generated module. -/
inductive ForeignType where
  /-- No value at all. -/
  | nothing
  /-- A type that the foreign function library defines. -/
  | basic (name : String)
  /-- A class of the generated module. -/
  | named (name : Value)
  /-- A pointer. -/
  | pointer (target : ForeignType)
  /-- An array; its size is written as in the header. -/
  | array (item : ForeignType) (size : String)
deriving Repr, Inhabited

namespace ForeignType

/-- A type expression as generated code writes it. -/
def text : ForeignType → String
  | nothing => "None"
  | basic name => "ctypes." ++ name
  | named name => name.shown
  | pointer target => "ctypes.POINTER(" ++ target.text ++ ")"
  | array item size => "(" ++ item.text ++ " * " ++ size ++ ")"

/-- A type expression as a value: the name of a class as it is, the text of any other one. -/
def value : ForeignType → Value
  | named name => name
  | t => .text t.text

/-- Whether a type expression reads as no value. A class with that name reads so too. -/
def isVoid (t : ForeignType) : Bool :=
  t.value.text? == some "None"

theorem isVoid_nothing : isVoid nothing = true := rfl

/-- Whether a type expression is a character. -/
def isCharacter : ForeignType → Bool
  | basic name => name == "c_char"
  | _ => false

end ForeignType

/-- How a native type is bound. -/
inductive TypeKind where
  /-- A number, a truth value, a character or nothing. -/
  | primitive
  /-- A text that ends with a zero. -/
  | string
  /-- A pointer or a reference. -/
  | pointer
  /-- A type of the native standard library. -/
  | std
  /-- An enumeration of the library. -/
  | enumeration
  /-- A class of the library with a known layout. -/
  | declaration
  /-- Any other type. -/
  | opaqueHandle
deriving DecidableEq, Repr, Inhabited

/-- The word for a kind in descriptions. -/
def TypeKind.word : TypeKind → String
  | primitive => "primitive"
  | string => "string"
  | pointer => "pointer"
  | std => "std"
  | enumeration => "enum"
  | declaration => "declaration"
  | opaqueHandle => "opaque"

/-- The description of a native type. -/
structure Descriptor where
  /-- The normal spelling of the native type. -/
  native : String
  /-- The Python type of its values. -/
  valueType : Value
  /-- The type expression that stands for it. -/
  foreignType : ForeignType
  /-- How it is bound. -/
  kind : TypeKind
  /-- The number of the declaration it refers to; nothing where there is none. -/
  declaration : Value
deriving Repr, Inhabited

/-- Whether a native type has no values. -/
def Descriptor.isVoid (d : Descriptor) : Bool :=
  d.foreignType.isVoid

end Bindery

/-!
## Native types with a fixed binding

Numbers, characters, texts, untyped pointers and the types of the native standard library that every
library may use. Templates of the standard library are listed by their plain names.
-/

namespace Bindery.TypeTable

/-- One line of the table. -/
private def entry (native valueType : String) (foreignType : ForeignType) (kind : TypeKind) :
    Descriptor :=
  ⟨native, .text valueType, foreignType, kind, .null⟩

/-- Every native type with a fixed binding. -/
def builtins : List Descriptor := [
  entry "void" "None" (.nothing) .primitive,
  entry "bool" "bool" (.basic "c_bool") .primitive,
  entry "_Bool" "bool" (.basic "c_bool") .primitive,
  entry "char" "bytes" (.basic "c_char") .primitive,
  entry "signed char" "int" (.basic "c_byte") .primitive,
  entry "unsigned char" "int" (.basic "c_ubyte") .primitive,
  entry "wchar_t" "str" (.basic "c_wchar") .primitive,
  entry "short" "int" (.basic "c_short") .primitive,
  entry "short int" "int" (.basic "c_short") .primitive,
  entry "signed short" "int" (.basic "c_short") .primitive,
  entry "unsigned short" "int" (.basic "c_ushort") .primitive,
  entry "unsigned short int" "int" (.basic "c_ushort") .primitive,
  entry "int" "int" (.basic "c_int") .primitive,
  entry "signed" "int" (.basic "c_int") .primitive,
  entry "signed int" "int" (.basic "c_int") .primitive,
  entry "unsigned" "int" (.basic "c_uint") .primitive,
  entry "unsigned int" "int" (.basic "c_uint") .primitive,
  entry "long" "int" (.basic "c_long") .primitive,
  entry "long int" "int" (.basic "c_long") .primitive,
  entry "signed long" "int" (.basic "c_long") .primitive,
  entry "unsigned long" "int" (.basic "c_ulong") .primitive,
  entry "unsigned long int" "int" (.basic "c_ulong") .primitive,
  entry "long long" "int" (.basic "c_longlong") .primitive,
  entry "long long int" "int" (.basic "c_longlong") .primitive,
  entry "unsigned long long" "int" (.basic "c_ulonglong") .primitive,
  entry "unsigned long long int" "int" (.basic "c_ulonglong") .primitive,
  entry "float" "float" (.basic "c_float") .primitive,
  entry "double" "float" (.basic "c_double") .primitive,
  entry "long double" "float" (.basic "c_longdouble") .primitive,
  entry "size_t" "int" (.basic "c_size_t") .primitive,
  entry "ssize_t" "int" (.basic "c_ssize_t") .primitive,
  entry "ptrdiff_t" "int" (.basic "c_ssize_t") .primitive,
  entry "intptr_t" "int" (.basic "c_ssize_t") .primitive,
  entry "uintptr_t" "int" (.basic "c_size_t") .primitive,
  entry "int8_t" "int" (.basic "c_int8") .primitive,
  entry "int16_t" "int" (.basic "c_int16") .primitive,
  entry "int32_t" "int" (.basic "c_int32") .primitive,
  entry "int64_t" "int" (.basic "c_int64") .primitive,
  entry "uint8_t" "int" (.basic "c_uint8") .primitive,
  entry "uint16_t" "int" (.basic "c_uint16") .primitive,
  entry "uint32_t" "int" (.basic "c_uint32") .primitive,
  entry "uint64_t" "int" (.basic "c_uint64") .primitive,
  entry "char*" "bytes" (.basic "c_char_p") .string,
  entry "wchar_t*" "str" (.basic "c_wchar_p") .string,
  entry "void*" "int" (.basic "c_void_p") .pointer,
  entry "std::size_t" "int" (.basic "c_size_t") .primitive,
  entry "std::ptrdiff_t" "int" (.basic "c_ssize_t") .primitive,
  entry "std::int8_t" "int" (.basic "c_int8") .primitive,
  entry "std::int16_t" "int" (.basic "c_int16") .primitive,
  entry "std::int32_t" "int" (.basic "c_int32") .primitive,
  entry "std::int64_t" "int" (.basic "c_int64") .primitive,
  entry "std::uint8_t" "int" (.basic "c_uint8") .primitive,
  entry "std::uint16_t" "int" (.basic "c_uint16") .primitive,
  entry "std::uint32_t" "int" (.basic "c_uint32") .primitive,
  entry "std::uint64_t" "int" (.basic "c_uint64") .primitive,
  entry "std::nullptr_t" "None" (.basic "c_void_p") .pointer,
  entry "std::string" "str" (.basic "c_char_p") .std,
  entry "std::wstring" "str" (.basic "c_wchar_p") .std,
  entry "std::string_view" "str" (.basic "c_char_p") .std,
  entry "std::vector" "list" (.basic "c_void_p") .std,
  entry "std::map" "dict" (.basic "c_void_p") .std,
  entry "std::unordered_map" "dict" (.basic "c_void_p") .std,
  entry "std::shared_ptr" "object" (.basic "c_void_p") .std,
  entry "std::unique_ptr" "object" (.basic "c_void_p") .std]

end Bindery.TypeTable
