/-! # Elementary types

Type names of a schema and of type constructors, and the keywords for access and mutability.
-/

namespace ContractLowering.Target

/-- A type is one of four known ones, a name that the schema gives, or not known. -/
inductive ElementaryType where
  | uint8
  | address
  | string
  | bool
  | named (name : String)
  | unresolved
  deriving DecidableEq

namespace ElementaryType

/-- The type that a constructor call such as `u8(5)` makes. -/
def ofConstructor? (callee : String) : Option ElementaryType :=
  if callee = "u8" then some uint8
  else if callee = "address" then some address
  else none

/-- The type that a schema names; `u8` and `uint8` are the same one. -/
def ofSchema (name : String) : ElementaryType :=
  if name = "u8" ∨ name = "uint8" then uint8
  else if name = "address" then address
  else if name = "string" then string
  else if name = "bool" then bool
  else if name = "" then unresolved
  else named name

/-- The written name; an unresolved type has an empty one. -/
def text : ElementaryType → String
  | uint8 => "uint8"
  | address => "address"
  | string => "string"
  | bool => "bool"
  | named name => name
  | unresolved => ""

def isResolved (type : ElementaryType) : Bool :=
  type ≠ unresolved

end ElementaryType

inductive Visibility where
  | publicAccess
  | privateAccess
  | internalAccess
  | externalAccess
  deriving DecidableEq

namespace Visibility

def keyword : Visibility → String
  | publicAccess => "public"
  | privateAccess => "private"
  | internalAccess => "internal"
  | externalAccess => "external"

def all : List Visibility := [publicAccess, privateAccess, internalAccess, externalAccess]

def ofKeyword? (word : String) : Option Visibility :=
  all.find? fun visibility => visibility.keyword = word

end Visibility

inductive Mutability where
  | pure
  | view
  | payable
  deriving DecidableEq

namespace Mutability

def keyword : Mutability → String
  | pure => "pure"
  | view => "view"
  | payable => "payable"

def all : List Mutability := [pure, view, payable]

def ofKeyword? (word : String) : Option Mutability :=
  all.find? fun mutability => mutability.keyword = word

end Mutability

/-- A type as it stands in the target, with its mutability where it has one. -/
structure TypeName where
  type : ElementaryType
  mutability : Option Mutability
  deriving DecidableEq

def TypeName.plain (type : ElementaryType) : TypeName :=
  ⟨type, none⟩

end ContractLowering.Target
