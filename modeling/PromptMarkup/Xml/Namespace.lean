import PromptMarkup.Xml.Dtd

/-!
# Namespaces

Prefixes are bound to namespaces by attributes of an element and hold inside it.  A name with a prefix stands for the
namespace in braces followed by the local name.
-/

namespace PromptMarkup.Xml

/-- The bindings in force, innermost first.  The empty prefix is the default namespace, and an empty namespace is none. -/
abbrev Bindings := List (String × String)

/-- The namespace that the prefix `xml` is always bound to. -/
def xmlNamespace : String := "http://www.w3.org/XML/1998/namespace"

/-- The namespace of namespace declarations. -/
def xmlnsNamespace : String := "http://www.w3.org/2000/xmlns/"

/-- The bindings outside the root element. -/
def Bindings.initial : Bindings := [("xml", xmlNamespace)]

/-- A name cut at its colon: the prefix, if there is one, and the rest. -/
def cutName (name : String) : Option String × String :=
  let before := name.toList.takeWhile (· != ':')
  match name.toList.dropWhile (· != ':') with
  | [] => (none, name)
  | _ :: r => (some (String.ofList before), String.ofList r)

/-- The prefix that an attribute binds, if it is a declaration of a namespace. -/
def declaredPrefix? (name : String) : Option String :=
  match cutName name with
  | (none, "xmlns") => some ""
  | (some "xmlns", p) => some p
  | _ => none

/-- Binds a prefix, unless the binding is one that namespaces forbid. -/
def Bindings.bind (b : Bindings) (pre uri : String) : Except Problem Bindings :=
  if uri = "" ∧ pre ≠ "" then .error .undeclaredPrefix
  else if pre = "xmlns" then .error .reservedXmlns
  else if uri.toList.contains '\x7d' then .error .unexpected
  else if pre = "xml" ∧ uri ≠ xmlNamespace then .error .reservedXml
  else if pre ≠ "xml" ∧ uri = xmlNamespace then .error .reservedNamespace
  else if uri = xmlnsNamespace then .error .reservedNamespace
  else .ok ((pre, uri) :: b)

/-- A local name in a namespace. -/
def universalName (uri localPart : String) : String :=
  if uri = "" then localPart else "\x7b" ++ uri ++ "\x7d" ++ localPart

/-- The name that an element's name stands for. -/
def Bindings.elementName (b : Bindings) (name : String) : Except Problem String :=
  match cutName name with
  | (none, n) => .ok (universalName ((b.lookup "").getD "") n)
  | (some p, n) =>
    match b.lookup p with
    | some uri => .ok (universalName uri n)
    | none => .error .unboundPrefix

/-- The name that an attribute's name stands for; without a prefix it is in no namespace. -/
def Bindings.attributeName (b : Bindings) (name : String) : Except Problem String :=
  match cutName name with
  | (none, n) => .ok n
  | (some p, n) =>
    match b.lookup p with
    | some uri => .ok (universalName uri n)
    | none => .error .unboundPrefix

/-- The attributes written in a tag, read one by one. -/
structure Reading where
  bindings : Bindings
  /-- The names that were written or filled in. -/
  names : List String := []
  /-- The attributes that are not declarations of namespaces, last first. -/
  attributes : List (String × String) := []

/-- A problem with a tag: at a place of its own, or at the tag itself. -/
abbrev TagError := Problem × Option Nat

/-- Adds an attribute with its value. -/
def Reading.add (r : Reading) (name value : String) : Except TagError Reading :=
  match declaredPrefix? name with
  | some p =>
    match r.bindings.bind p value with
    | .ok b => .ok { r with bindings := b, names := name :: r.names }
    | .error e => .error (e, none)
  | none =>
    .ok { r with names := name :: r.names, attributes := (name, value) :: r.attributes }

/-- Adds an attribute as it is written. -/
def Reading.addRaw (d : Dtd) (opened : OpenEntities) (element : String) (r : Reading) (a : RawAttribute) :
    Except TagError Reading :=
  if r.names.contains a.name then .error (.duplicateAttribute, some a.place)
  else
    let declared := (d.attributesOf element).find? fun x => x.name == a.name
    let verbatim := (declared.map (·.verbatim)).getD true
    match attributeValue d d.strict verbatim opened a.value with
    | .error (p, some left) => .error (p, some (left + a.after))
    | .error (p, none) => .error (p, none)
    | .ok v => r.add a.name v

/-- Adds a declared default, unless the attribute is there. -/
def Reading.addDefault (r : Reading) (a : DeclaredAttribute) : Except TagError Reading :=
  match a.default with
  | none => .ok r
  | some v => if r.names.contains a.name then .ok r else r.add a.name v

/-- Attributes with the names that theirs stand for; two of them must not be the same. -/
def expandAttributes (b : Bindings) :
    List (String × String) → List (String × String) → Except TagError (List (String × String))
  | acc, [] => .ok acc.reverse
  | acc, (name, value) :: r =>
    match b.attributeName name with
    | .error e => .error (e, none)
    | .ok n =>
      if acc.any fun a => a.1 == n then .error (.duplicateAttribute, none)
      else expandAttributes b ((n, value) :: acc) r

/-- A start tag with its names and its attributes resolved. -/
structure Tag where
  raw : String
  name : String
  attributes : List (String × String)
  bindings : Bindings
  empty : Bool

/-- The meaning of a start tag. -/
def Tag.ofRaw (d : Dtd) (opened : OpenEntities) (b : Bindings) (t : RawTag) : Except TagError Tag := do
  let r ← t.attributes.foldlM (Reading.addRaw d opened t.name) ({ bindings := b } : Reading)
  let r ← (d.attributesOf t.name).foldlM Reading.addDefault r
  let attributes ← expandAttributes r.bindings [] r.attributes.reverse
  match r.bindings.elementName t.name with
  | .error e => .error (e, none)
  | .ok name => .ok ⟨t.name, name, attributes, r.bindings, t.empty⟩

end PromptMarkup.Xml
