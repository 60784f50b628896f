import RowBinding.Derive.Token
/-!
# The parts of a type

A type is read part by part.  A part either takes tokens as they come or consists of further parts;
which ones these are, the next tokens tell.

**A sign stands apart unless the part it belongs to joins it**: the two signs of `>>` are one
operator in an expression, but close two lists of arguments in a type.
-/
namespace RowBinding.Derive.Canonical

/-- What ends a list. -/
inductive Closer where
  | bracket
  /-- The sign `>`. -/
  | angle
  /-- The sign `|`. -/
  | bar
  /-- The body of an item, or what else follows its conditions. -/
  | body
  deriving DecidableEq, Repr

/-- How a part is written, as it turns out while it is read. -/
inductive Manner where
  /-- By what it says. -/
  | plain
  /-- In round brackets. -/
  | bracketed
  /-- In round brackets, but for the attributes in front of it. -/
  | grouped
  /-- As it was, with every sign joined as it was. -/
  | kept
  deriving DecidableEq, Repr

/-- Where an item is declared.  What it may leave out depends on this. -/
inductive Place where
  /-- In a block or a module. -/
  | block
  | trait
  | implementation
  /-- Among the items that a foreign library provides. -/
  | foreign
  deriving DecidableEq, Repr

/-- A part of a type. -/
inductive Part where
  /-- One token, whatever it is. -/
  | token
  /-- An operator of so many signs. -/
  | operator (signs : Nat)
  /-- So many tokens that are not written. -/
  | dropped (tokens : Nat)
  /-- Tokens that are written without being there. -/
  | added (tokens : List Token)
  /-- Positions in a tuple with points between them, written like one number. -/
  | positions
  /-- Three points in a pattern, which mean a range with its end. -/
  | threePoints
  /-- A bracket with what it encloses, kept as it is. -/
  | enclosed
  /-- This word, if it comes next. -/
  | perhaps (word : String)
  /-- A lifetime, if one comes next. -/
  | perhapsLifetime
  /-- A literal, if one comes next. -/
  | perhapsLiteral
  /-- This sign, if it comes next. -/
  | perhapsSign (c : Char)
  /-- This sign and the part after it, if the sign comes next. -/
  | after (c : Char) (part : Part)
  /-- Items separated by commas or semicolons. -/
  | list (each : Part) (closer : Closer)
  /-- Items up to an angle bracket, written with the lifetimes among them first. -/
  | arranged (each : Part)
  /-- Nothing, but the form it stands in is written in this manner. -/
  | manner (m : Manner)
  /-- A part that is written in the manner that comes up in it. -/
  | formed (part : Part)
  /-- A type; `plus` says whether bounds may follow it. -/
  | type (plus : Bool)
  /-- The type of an object behind a pointer of its own kind. -/
  | object (plus : Bool)
  /-- Bounds; `plus` says whether there may be more than one. -/
  | bounds (plus : Bool)
  | moreBounds (plus : Bool)
  | bound
  /-- A colon and bounds, or nothing where the colon has no bounds. -/
  | ownBounds
  /-- The type of a function. -/
  | signature
  | parameter
  /-- The object of a method as a parameter of a function type. -/
  | selfParameter
  /-- A type, or the points that stand for any number of parameters. -/
  | typeOrPoints
  /-- The type of a result; `plus` as for a type. -/
  | result (plus : Bool)
  /-- A path, in a type or in an expression. -/
  | path (inType : Bool)
  /-- The trait to which the path after a type belongs. -/
  | trait
  | segment (inType : Bool)
  /-- What follows the name in a segment of a path. -/
  | segmentArguments (inType : Bool)
  | moreSegments (inType : Bool)
  /-- Arguments in angle brackets. -/
  | arguments
  | argument
  /-- A generic parameter. -/
  | generic
  /-- What may follow the path of a type that a macro makes. -/
  | invocation
  /-- An attribute. -/
  | attribute
  | attributeBody
  | attributes
  /-- A pattern with alternatives. -/
  | pattern
  | alternatives
  /-- A pattern without alternatives.  Where `marked`, a range is grouped. -/
  | single (marked : Bool)
  /-- What may follow the path in a pattern. -/
  | namedPattern (marked : Bool)
  /-- What may follow a value in a pattern. -/
  | rangePattern (marked : Bool)
  /-- The end of a range in a pattern, if it has one. -/
  | patternBound
  /-- What groups a pattern that has no type behind it. -/
  | untyped
  | boxed
  | patternField
  /-- An expression.  `structs` says whether a curly bracket after a path belongs to it. -/
  | expression (structs : Bool)
  /-- An operand with its casts. -/
  | casted (structs : Bool)
  | operand (structs : Bool)
  /-- An operand that is kept as it is. -/
  | keptOperand
  /-- What follows the path of an operand. -/
  | named (structs : Bool)
  /-- What follows an operand and belongs to it: members, arguments, indices. -/
  | trailers
  | casts
  /-- The type of a cast, which a list of arguments must not seem to follow. -/
  | castType
  /-- The rest of an expression after an operand.  Where `marked`, a range is grouped. -/
  | operators (structs marked : Bool)
  /-- The end of a range, if it has one. -/
  | rangeEnd (inclusive structs : Bool)
  /-- The value of a jump, if it has one. -/
  | jumpValue (blocks : Bool)
  /-- How an address is taken. -/
  | address
  /-- What follows the point after an operand. -/
  | member
  /-- A field of a struct that an expression makes. -/
  | field
  | closureParameter
  /-- What follows the block of a condition. -/
  | otherwise
  /-- An arm of a match. -/
  | arm
  | armBody
  /-- The condition of an arm. -/
  | guard
  | block
  | statement
  /-- A statement that is an expression; `marked` as for operators. -/
  | action (marked : Bool)
  /-- What follows the block with which a statement begins. -/
  | afterBlock (marked : Bool)
  /-- The items in curly brackets. -/
  | members (place : Place)
  | memberItem (place : Place)
  | item (place : Place)
  /-- The words before the word of a function. -/
  | qualifiers
  /-- The body of a function, or its absence. -/
  | functionEnd (place : Place)
  | visibility
  /-- The generic parameters of an item. -/
  | generics
  /-- The generic parameters of an implementation. -/
  | ownGenerics
  /-- The conditions on the parameters of an item. -/
  | conditions
  | condition
  | functionParameter
  /-- The fields of a struct or a variant. -/
  | fields
  | fieldDeclaration
  /-- The type of a field without a name. -/
  | innerFields
  | positionalField
  | variant
  /-- What an implementation says about itself before its type. -/
  | disposition
  /-- The trait that is implemented, or the type. -/
  | implemented
  /-- The rest of a type where only a trait could be implemented. -/
  | implementedRest
  /-- The type for which a trait is implemented; `proper` says whether the trait is a path. -/
  | implementing (proper : Bool)
  /-- The value of a constant. -/
  | value (place : Place)
  /-- The conditions on a constant. -/
  | constantConditions
  /-- The type and the value of a variable. -/
  | variable (place : Place)
  /-- The bounds of a type that an item declares. -/
  | typeBounds (place : Place)
  /-- The type that an item names. -/
  | definition (place : Place)
  /-- The bounds and the body of a trait, or what it is short for. -/
  | traitBody
  /-- What is imported; `grouped` says whether it is one of several. -/
  | imported (grouped : Bool)
  /-- The name of what a macro makes. -/
  | macroName

end RowBinding.Derive.Canonical
