import FluentBuilder.Document.Fault

/-!
# Tokens of documents

The smallest parts of a document. Indentation is told by tokens of its own, so that the tokens alone
say how a document is built. The last token is the end, or the fault at which reading stopped.
-/

namespace FluentBuilder.Document

/-- What is said about a document before it begins. -/
inductive Directive where
  /-- The version of the notation, by its first number. -/
  | version (major : Nat)
  /-- What a handle of tags stands for. -/
  | handle (handle meaning : String)
  /-- Anything else. -/
  | other
  deriving DecidableEq, Repr

/-- A token. -/
inductive Token where
  | directive (directive : Directive)
  /-- Three hyphens. -/
  | documentStart
  /-- Three points. -/
  | documentEnd
  /-- A list by indentation begins. -/
  | listStart
  /-- A mapping by indentation begins. -/
  | mapStart
  /-- A list or a mapping by indentation ends. -/
  | blockEnd
  | openBracket
  | closeBracket
  | openBrace
  | closeBrace
  | comma
  /-- A hyphen before an item. -/
  | item
  /-- A key follows. -/
  | key
  /-- The value of a key follows. -/
  | value
  /-- A name that stands for a node. -/
  | reference (name : String)
  /-- A name for the node that follows. -/
  | anchor (name : String)
  /-- The tag of the node that follows: a handle, if it has one, and the rest. -/
  | tag (handle : Option String) (suffix : String)
  /-- A scalar; a plain one has no quotes and no indicator. -/
  | scalar (text : CodePoints) (isPlain : Bool)
  /-- The end of the text. -/
  | finish
  /-- The text is not read any further. -/
  | broken (fault : DocumentFault)
  deriving DecidableEq, Repr

end FluentBuilder.Document
