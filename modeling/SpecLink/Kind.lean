/-!
# Kinds of definitions and of links

A definition has one kind. A link asks for one kind or, by a shorthand, for several; `accepts` says
which definitions satisfy it. The order of `DefinitionKind.all` is the order in which kinds are
listed.
-/
namespace SpecLink

inductive DefinitionKind where
  | dfn
  | abstractOp
  | property
  | descriptor
  | value
  | type
  | atRule
  | function
  | selector
  | token
  | element
  | elementAttr
  | attrValue
  | elementState
  | event
  | interface
  | namespaceObject
  | extendedAttribute
  | idlConstructor
  | method
  | argument
  | idlAttribute
  | callback
  | dictionary
  | dictMember
  | enum
  | enumValue
  | exception
  | const
  | typedef
  | stringifier
  | serializer
  | iterator
  | maplike
  | setlike
  | permission
  | grammar
  | scheme
  | state
  | mode
  | context
  | facet
  | httpHeader
  deriving DecidableEq, Repr, Inhabited

namespace DefinitionKind

def all : List DefinitionKind := [
  .dfn, .abstractOp, .property, .descriptor, .value, .type, .atRule, .function, .selector,
  .token, .element, .elementAttr, .attrValue, .elementState, .event, .interface,
  .namespaceObject, .extendedAttribute, .idlConstructor, .method, .argument, .idlAttribute,
  .callback, .dictionary, .dictMember, .enum, .enumValue, .exception, .const, .typedef,
  .stringifier, .serializer, .iterator, .maplike, .setlike, .permission, .grammar, .scheme,
  .state, .mode, .context, .facet, .httpHeader]

/-- The word for a kind in documents and data files. -/
def name : DefinitionKind → String
  | .dfn => "dfn"
  | .abstractOp => "abstract-op"
  | .property => "property"
  | .descriptor => "descriptor"
  | .value => "value"
  | .type => "type"
  | .atRule => "at-rule"
  | .function => "function"
  | .selector => "selector"
  | .token => "token"
  | .element => "element"
  | .elementAttr => "element-attr"
  | .attrValue => "attr-value"
  | .elementState => "element-state"
  | .event => "event"
  | .interface => "interface"
  | .namespaceObject => "namespace"
  | .extendedAttribute => "extended-attribute"
  | .idlConstructor => "constructor"
  | .method => "method"
  | .argument => "argument"
  | .idlAttribute => "attribute"
  | .callback => "callback"
  | .dictionary => "dictionary"
  | .dictMember => "dict-member"
  | .enum => "enum"
  | .enumValue => "enum-value"
  | .exception => "exception"
  | .const => "const"
  | .typedef => "typedef"
  | .stringifier => "stringifier"
  | .serializer => "serializer"
  | .iterator => "iterator"
  | .maplike => "maplike"
  | .setlike => "setlike"
  | .permission => "permission"
  | .grammar => "grammar"
  | .scheme => "scheme"
  | .state => "state"
  | .mode => "mode"
  | .context => "context"
  | .facet => "facet"
  | .httpHeader => "http-header"

def ofName? (s : String) : Option DefinitionKind := all.find? fun kind => kind.name == s

theorem mem_all (kind : DefinitionKind) : kind ∈ all := by cases kind <;> decide

/-- Kinds of interface definition languages. -/
def isIdl : DefinitionKind → Bool
  | .event | .interface | .namespaceObject | .extendedAttribute | .idlConstructor | .method
  | .argument | .idlAttribute | .callback | .dictionary | .dictMember | .enum | .enumValue
  | .exception | .const | .typedef | .stringifier | .serializer | .iterator | .maplike
  | .setlike | .permission => true
  | _ => false

/-- Kinds that a link without a stated kind may mean besides `dfn`. -/
def isMaybe : DefinitionKind → Bool
  | .value | .type | .atRule | .function | .selector => true
  | _ => false

end DefinitionKind

/-- What a link asks for: one kind, or a shorthand for several. -/
inductive LinkKind where
  | exact (kind : DefinitionKind)
  | propdesc
  | functionish
  | idl
  | idlName
  | elementSub
  | maybe
  | codelike
  deriving DecidableEq, Repr, Inhabited

namespace LinkKind

def name : LinkKind → String
  | .exact kind => kind.name
  | .propdesc => "propdesc"
  | .functionish => "functionish"
  | .idl => "idl"
  | .idlName => "idl-name"
  | .elementSub => "element-sub"
  | .maybe => "maybe"
  | .codelike => "codelike"

def shorthands : List LinkKind :=
  [.propdesc, .functionish, .idl, .idlName, .elementSub, .maybe, .codelike]

def ofName? (s : String) : Option LinkKind :=
  (shorthands.find? fun kind => kind.name == s) <|> (DefinitionKind.ofName? s).map .exact

/-- A definition of the given kind satisfies the link. -/
def accepts : LinkKind → DefinitionKind → Bool
  | .exact kind, d => kind == d
  | .propdesc, d => d == .property || d == .descriptor
  | .functionish, d => d == .function || d == .method || d == .idlConstructor || d == .stringifier
  | .idl, d => d.isIdl
  | .idlName, d =>
    d == .interface || d == .namespaceObject || d == .dictionary || d == .enum || d == .typedef ||
      d == .callback
  | .elementSub, d => d == .elementAttr || d == .elementState
  | .maybe, d => d.isMaybe || d == .dfn
  | .codelike, d =>
    d.isIdl || d == .element || d == .elementAttr || d == .elementState || d == .attrValue

/-- The kinds of definitions that satisfy the link. -/
def expansion (kind : LinkKind) : List DefinitionKind := DefinitionKind.all.filter kind.accepts

/-- Links to prose terms also try other spellings of their text. -/
def usesVariants (kind : LinkKind) : Bool := kind == .exact .dfn || kind == .maybe

end LinkKind

end SpecLink
